import Dataflow.Text.Percent
import Dataflow.Proofs.Results
import Dataflow.Proofs.Text.Characters

/-!
# Texts and their bytes

A character is read back from the bytes of its UTF-8 form, whatever bytes follow
(`utf8Pieces_utf8Bytes`), and from no others (`eq_append_of_nextUtf8`). So a text is read from its
bytes and from no others (`decodeUtf8?_eq_some_iff`). A byte is read back from its percent-encoded
form (`percentDecode_percentByte`).
-/

namespace Dataflow.Text

/-! ## UTF-8 -/

/-- A byte within its bounds is taken as the next six bits. -/
lemma followBytes_cons {bits count low high b : ℕ} (hlow : low ≤ b) (hhigh : b ≤ high)
    (rest : List ℕ) :
    followBytes bits (count + 1) low high (b :: rest) =
      followBytes (bits * 64 + (b - 0x80)) count 0x80 0xBF rest := by
  rw [followBytes, if_pos (by simp [hlow, hhigh])]

/-- The last byte completes a character with its six bits. -/
lemma followBytes_last {bits n : ℕ} (hn : n < 0x40) (rest : List ℕ) :
    followBytes bits 1 0x80 0xBF ((0x80 + n) :: rest) = (some (bits * 64 + n), rest) := by
  rw [followBytes_cons (by omega) (by omega), Nat.add_sub_cancel_left, followBytes]

/-- The character that a first byte starts and the bytes after it complete. -/
lemma utf8Pieces_cons {b n : ℕ} {lead : Lead} {bytes rest : List ℕ}
    (hlead : Lead.ofByte? b = some lead)
    (hfollow : followBytes lead.bits lead.count lead.low lead.high bytes = (some n, rest)) :
    utf8Pieces (b :: bytes) = some (Char.ofNat n) :: utf8Pieces rest := by
  have hnext : nextUtf8 b bytes = (some (Char.ofNat n), rest) := by
    rw [nextUtf8, hlead]
    simp only [hfollow, Option.map_some]
  rw [utf8Pieces, hnext]

/-- A character of two bytes is read from them. -/
lemma utf8Pieces_two {n : ℕ} (hlow : 0x80 ≤ n) (hhigh : n < 0x800) (rest : List ℕ) :
    utf8Pieces ((0xC0 + n / 0x40) :: (0x80 + n % 0x40) :: rest) =
      some (Char.ofNat n) :: utf8Pieces rest := by
  have hlead : Lead.ofByte? (0xC0 + n / 0x40) = some ⟨n / 0x40, 1, 0x80, 0xBF⟩ := by
    rw [Lead.ofByte?, if_neg (by omega), if_neg (by omega), if_pos (by omega),
      Nat.add_sub_cancel_left]
  refine utf8Pieces_cons hlead ((followBytes_last (Nat.mod_lt n (by omega)) rest).trans ?_)
  rw [Nat.div_add_mod']

/-- A character of three bytes is read from them: the bounds of the second byte leave out what has a
shorter form, and the surrogates. -/
lemma utf8Pieces_three {n : ℕ} (hlow : 0x800 ≤ n) (hhigh : n < 0x10000)
    (hvalid : n < 0xD800 ∨ 0xDFFF < n) (rest : List ℕ) :
    utf8Pieces ((0xE0 + n / 0x1000) :: (0x80 + n / 0x40 % 0x40) :: (0x80 + n % 0x40) :: rest) =
      some (Char.ofNat n) :: utf8Pieces rest := by
  have hlead : Lead.ofByte? (0xE0 + n / 0x1000) = some ⟨n / 0x1000, 2,
      if 0xE0 + n / 0x1000 == 0xE0 then 0xA0 else 0x80,
      if 0xE0 + n / 0x1000 == 0xED then 0x9F else 0xBF⟩ := by
    rw [Lead.ofByte?, if_neg (by omega), if_neg (by omega), if_neg (by omega), if_pos (by omega),
      Nat.add_sub_cancel_left]
  have hleast : (if 0xE0 + n / 0x1000 == 0xE0 then 0xA0 else 0x80) ≤ 0x80 + n / 0x40 % 0x40 := by
    simp only [beq_iff_eq]
    split <;> omega
  have hmost : 0x80 + n / 0x40 % 0x40 ≤ (if 0xE0 + n / 0x1000 == 0xED then 0x9F else 0xBF) := by
    simp only [beq_iff_eq]
    split <;> omega
  have hsum : (n / 0x1000 * 64 + (0x80 + n / 0x40 % 0x40 - 0x80)) * 64 + n % 0x40 = n := by omega
  refine utf8Pieces_cons hlead ((followBytes_cons hleast hmost _).trans ?_)
  refine (followBytes_last (Nat.mod_lt n (by omega)) rest).trans ?_
  exact congrArg (fun m => (some m, rest)) hsum

/-- A character of four bytes is read from them: the bounds of the second byte leave out what has a
shorter form, and what is no code point. -/
lemma utf8Pieces_four {n : ℕ} (hlow : 0x10000 ≤ n) (hhigh : n < 0x110000) (rest : List ℕ) :
    utf8Pieces ((0xF0 + n / 0x40000) :: (0x80 + n / 0x1000 % 0x40) :: (0x80 + n / 0x40 % 0x40) ::
      (0x80 + n % 0x40) :: rest) = some (Char.ofNat n) :: utf8Pieces rest := by
  have hlead : Lead.ofByte? (0xF0 + n / 0x40000) = some ⟨n / 0x40000, 3,
      if 0xF0 + n / 0x40000 == 0xF0 then 0x90 else 0x80,
      if 0xF0 + n / 0x40000 == 0xF4 then 0x8F else 0xBF⟩ := by
    rw [Lead.ofByte?, if_neg (by omega), if_neg (by omega), if_neg (by omega),
      if_neg (by omega), if_pos (by omega), Nat.add_sub_cancel_left]
  have hleast : (if 0xF0 + n / 0x40000 == 0xF0 then 0x90 else 0x80) ≤
      0x80 + n / 0x1000 % 0x40 := by
    simp only [beq_iff_eq]
    split <;> omega
  have hmost : 0x80 + n / 0x1000 % 0x40 ≤
      (if 0xF0 + n / 0x40000 == 0xF4 then 0x8F else 0xBF) := by
    simp only [beq_iff_eq]
    split <;> omega
  have hthird : 0x80 ≤ 0x80 + n / 0x40 % 0x40 ∧ 0x80 + n / 0x40 % 0x40 ≤ 0xBF := by omega
  have hsum : ((n / 0x40000 * 64 + (0x80 + n / 0x1000 % 0x40 - 0x80)) * 64 +
      (0x80 + n / 0x40 % 0x40 - 0x80)) * 64 + n % 0x40 = n := by omega
  refine utf8Pieces_cons hlead ((followBytes_cons hleast hmost _).trans ?_)
  refine (followBytes_cons hthird.1 hthird.2 _).trans ?_
  refine (followBytes_last (Nat.mod_lt n (by omega)) rest).trans ?_
  exact congrArg (fun m => (some m, rest)) hsum

/-- A character is read from its bytes, whatever follows them. -/
lemma utf8Pieces_utf8Bytes (c : Char) (rest : List ℕ) :
    utf8Pieces (utf8Bytes c ++ rest) = some c :: utf8Pieces rest := by
  have hvalid : c.toNat < 0xD800 ∨ 0xDFFF < c.toNat ∧ c.toNat < 0x110000 := c.valid
  nth_rewrite 2 [← Char.ofNat_toNat c]
  unfold utf8Bytes
  generalize c.toNat = n at hvalid
  simp only
  by_cases hone : n < 0x80
  · rw [if_pos hone]
    exact utf8Pieces_cons (by rw [Lead.ofByte?, if_pos hone]) rfl
  by_cases htwo : n < 0x800
  · rw [if_neg hone, if_pos htwo]
    exact utf8Pieces_two (by omega) htwo rest
  by_cases hthree : n < 0x10000
  · rw [if_neg hone, if_neg htwo, if_pos hthree]
    exact utf8Pieces_three (by omega) hthree (hvalid.imp_right And.left) rest
  · rw [if_neg hone, if_neg htwo, if_neg hthree]
    exact utf8Pieces_four (by omega) (by omega) rest

/-- A text is read from its bytes. -/
lemma utf8Pieces_flatMap (s : List Char) : utf8Pieces (s.flatMap utf8Bytes) = s.map some := by
  induction s with
  | nil => rw [List.flatMap_nil, utf8Pieces, List.map_nil]
  | cons c s ih => rw [List.flatMap_cons, utf8Pieces_utf8Bytes, ih, List.map_cons]

/-- A text is read from its bytes without a fault. -/
lemma decodeUtf8Lossy_flatMap (s : List Char) : decodeUtf8Lossy (s.flatMap utf8Bytes) = s := by
  rw [decodeUtf8Lossy, utf8Pieces_flatMap, List.map_map]
  exact List.map_id s

/-- The bytes of a text have no fault, and are read as the text. -/
lemma decodeUtf8?_flatMap (s : List Char) : decodeUtf8? (s.flatMap utf8Bytes) = some s := by
  rw [decodeUtf8?, utf8Pieces_flatMap, mapM_eq_some_iff, List.forall₂_map_left_iff,
    List.forall₂_same]
  exact fun _ _ => rfl

/-- After the last byte of a character, its bits are complete. -/
lemma of_followBytes_zero {bits low high n : ℕ} {bytes left : List ℕ}
    (h : followBytes bits 0 low high bytes = (some n, left)) : n = bits ∧ left = bytes := by
  rw [followBytes] at h
  obtain ⟨hn, hleft⟩ := Prod.mk.inj h
  exact ⟨(Option.some.inj hn).symm, hleft.symm⟩

/-- A character goes on with a byte within its bounds. -/
lemma exists_of_followBytes_succ {bits count low high n : ℕ} {bytes left : List ℕ}
    (h : followBytes bits (count + 1) low high bytes = (some n, left)) :
    ∃ b rest, bytes = b :: rest ∧ low ≤ b ∧ b ≤ high ∧
      followBytes (bits * 64 + (b - 0x80)) count 0x80 0xBF rest = (some n, left) := by
  cases bytes with
  | nil => cases h
  | cons b rest =>
    rw [followBytes] at h
    split at h
    · rename_i hbounds
      rw [Bool.and_eq_true, decide_eq_true_eq, decide_eq_true_eq] at hbounds
      exact ⟨b, rest, rfl, hbounds.1, hbounds.2, h⟩
    · cases h

/-- The two bytes that a character is read from are its own. -/
lemma eq_append_of_follow_one {b n : ℕ} {rest left : List ℕ} (hlow : 0xC2 ≤ b) (hhigh : b < 0xE0)
    (h : followBytes (b - 0xC0) 1 0x80 0xBF rest = (some n, left)) :
    b :: rest = utf8Bytes (Char.ofNat n) ++ left := by
  obtain ⟨b₁, rest, rfl, hlow₁, hhigh₁, h⟩ := exists_of_followBytes_succ h
  obtain ⟨hn, rfl⟩ := of_followBytes_zero h
  rw [utf8Bytes, toNat_ofNat (by omega), if_neg (by omega), if_pos (by omega)]
  simp only [List.cons_append, List.nil_append, List.cons.injEq, and_true]
  omega

/-- The three bytes that a character is read from are its own. -/
lemma eq_append_of_follow_two {b n : ℕ} {rest left : List ℕ} (hlow : 0xE0 ≤ b) (hhigh : b < 0xF0)
    (h : followBytes (b - 0xE0) 2 (if b == 0xE0 then 0xA0 else 0x80)
      (if b == 0xED then 0x9F else 0xBF) rest = (some n, left)) :
    b :: rest = utf8Bytes (Char.ofNat n) ++ left := by
  obtain ⟨b₁, rest, rfl, hlow₁, hhigh₁, h⟩ := exists_of_followBytes_succ h
  obtain ⟨b₂, rest, rfl, hlow₂, hhigh₂, h⟩ := exists_of_followBytes_succ h
  obtain ⟨hn, rfl⟩ := of_followBytes_zero h
  simp only [beq_iff_eq] at hlow₁ hhigh₁
  have hbounds : 0x80 ≤ b₁ ∧ b₁ ≤ 0xBF ∧ (b = 0xE0 → 0xA0 ≤ b₁) ∧ (b = 0xED → b₁ ≤ 0x9F) := by
    split at hlow₁ <;> split at hhigh₁ <;> omega
  rw [utf8Bytes, toNat_ofNat (by omega), if_neg (by omega), if_neg (by omega), if_pos (by omega)]
  simp only [List.cons_append, List.nil_append, List.cons.injEq, and_true]
  omega

/-- The four bytes that a character is read from are its own. -/
lemma eq_append_of_follow_three {b n : ℕ} {rest left : List ℕ} (hlow : 0xF0 ≤ b) (hhigh : b < 0xF5)
    (h : followBytes (b - 0xF0) 3 (if b == 0xF0 then 0x90 else 0x80)
      (if b == 0xF4 then 0x8F else 0xBF) rest = (some n, left)) :
    b :: rest = utf8Bytes (Char.ofNat n) ++ left := by
  obtain ⟨b₁, rest, rfl, hlow₁, hhigh₁, h⟩ := exists_of_followBytes_succ h
  obtain ⟨b₂, rest, rfl, hlow₂, hhigh₂, h⟩ := exists_of_followBytes_succ h
  obtain ⟨b₃, rest, rfl, hlow₃, hhigh₃, h⟩ := exists_of_followBytes_succ h
  obtain ⟨hn, rfl⟩ := of_followBytes_zero h
  simp only [beq_iff_eq] at hlow₁ hhigh₁
  have hbounds : 0x80 ≤ b₁ ∧ b₁ ≤ 0xBF ∧ (b = 0xF0 → 0x90 ≤ b₁) ∧ (b = 0xF4 → b₁ ≤ 0x8F) := by
    split at hlow₁ <;> split at hhigh₁ <;> omega
  rw [utf8Bytes, toNat_ofNat (by omega), if_neg (by omega), if_neg (by omega), if_neg (by omega)]
  simp only [List.cons_append, List.nil_append, List.cons.injEq, and_true]
  omega

/-- A character is read from its own bytes only. -/
lemma eq_append_of_nextUtf8 {b : ℕ} {rest left : List ℕ} {c : Char}
    (h : nextUtf8 b rest = (some c, left)) : b :: rest = utf8Bytes c ++ left := by
  unfold nextUtf8 at h
  split at h
  · cases h
  · rename_i lead hlead
    obtain ⟨hfound, hleft⟩ := Prod.mk.inj h
    obtain ⟨n, hn, rfl⟩ := Option.map_eq_some_iff.mp hfound
    have hfollow : followBytes lead.bits lead.count lead.low lead.high rest = (some n, left) :=
      Prod.ext hn hleft
    unfold Lead.ofByte? at hlead
    split at hlead
    · rename_i hone
      obtain rfl := Option.some.inj hlead
      obtain ⟨rfl, rfl⟩ := of_followBytes_zero hfollow
      rw [utf8Bytes, toNat_ofNat (by omega), if_pos hone]
      rfl
    · split at hlead
      · cases hlead
      · split at hlead
        · obtain rfl := Option.some.inj hlead
          exact eq_append_of_follow_one (by omega) (by omega) hfollow
        · split at hlead
          · obtain rfl := Option.some.inj hlead
            exact eq_append_of_follow_two (by omega) (by omega) hfollow
          · split at hlead
            · obtain rfl := Option.some.inj hlead
              exact eq_append_of_follow_three (by omega) (by omega) hfollow
            · cases hlead

/-- A text is read from its own bytes only. -/
lemma decodeUtf8?_eq_some_iff {bytes : List ℕ} {s : List Char} :
    decodeUtf8? bytes = some s ↔ bytes = s.flatMap utf8Bytes := by
  constructor
  · intro h
    rw [decodeUtf8?, mapM_eq_some_iff] at h
    fun_induction utf8Pieces bytes generalizing s with
    | case1 =>
      obtain rfl := List.forall₂_nil_left_iff.mp h
      rfl
    | case2 b rest ih =>
      obtain ⟨c, s, hc, hs, rfl⟩ := List.forall₂_cons_left_iff.mp h
      rw [List.flatMap_cons, ← ih hs]
      exact eq_append_of_nextUtf8 (Prod.ext hc rfl)
  · rintro rfl
    exact decodeUtf8?_flatMap s

/-- The byte of an ASCII character is its number, and those of other characters are no ASCII. -/
lemma of_mem_utf8Bytes {c : Char} {b : ℕ} (hb : b ∈ utf8Bytes c) :
    c.toNat = b ∧ b < 0x80 ∨ 0x80 ≤ b ∧ b < 256 := by
  have hvalid : c.toNat < 0xD800 ∨ 0xDFFF < c.toNat ∧ c.toNat < 0x110000 := c.valid
  unfold utf8Bytes at hb
  simp only at hb
  split at hb
  · simp only [List.mem_singleton] at hb
    omega
  · split at hb
    · simp only [List.mem_cons, List.not_mem_nil, or_false] at hb
      omega
    · split at hb
      · simp only [List.mem_cons, List.not_mem_nil, or_false] at hb
        omega
      · simp only [List.mem_cons, List.not_mem_nil, or_false] at hb
        omega

/-- The bytes of a character are bytes. -/
lemma lt_of_mem_utf8Bytes {c : Char} {b : ℕ} (hb : b ∈ utf8Bytes c) : b < 256 := by
  rcases of_mem_utf8Bytes hb with ⟨_, hlt⟩ | ⟨_, hlt⟩
  · omega
  · exact hlt

/-- The byte of an ASCII character is among those of this character only. -/
lemma toNat_eq_of_mem_utf8Bytes {c : Char} {b : ℕ} (hascii : b < 0x80) (hb : b ∈ utf8Bytes c) :
    c.toNat = b := by
  rcases of_mem_utf8Bytes hb with ⟨heq, _⟩ | ⟨hle, _⟩
  · exact heq
  · omega

/-- A character has bytes. -/
lemma utf8Bytes_ne_nil (c : Char) : utf8Bytes c ≠ [] := by
  unfold utf8Bytes
  dsimp only
  split_ifs
  all_goals exact List.cons_ne_nil _ _

/-- A text has no fewer bytes than characters. -/
lemma length_le_utf8ByteSize (s : List Char) : s.length ≤ (String.ofList s).utf8ByteSize := by
  induction s with
  | nil => exact Nat.zero_le _
  | cons c s ih =>
    rw [String.ofList_cons, String.utf8ByteSize_append, String.utf8ByteSize_singleton,
      List.length_cons]
    have hc := c.utf8Size_pos
    omega

/-! ## Percent-encoding -/

/-- A digit in upper case has its value. -/
lemma hexValue?_upperHexDigit {d : ℕ} (hd : d < 16) : hexValue? (upperHexDigit d) = some d := by
  have hall : ∀ d < 16, hexValue? (upperHexDigit d) = some d := by decide
  exact hall d hd

/-- A byte is read from its encoded form, whatever follows. -/
lemma percentDecode_percentByte {b : ℕ} (hb : b < 256) (rest : List Char) :
    percentDecode (percentByte b ++ rest) = b :: percentDecode rest := by
  rw [percentByte]
  simp only [List.cons_append, List.nil_append]
  rw [percentDecode, hexValue?_upperHexDigit (show b / 16 < 16 by omega),
    hexValue?_upperHexDigit (show b % 16 < 16 by omega)]
  simp only [Nat.div_add_mod']

/-- An ASCII character other than the percent sign is read as its byte. -/
lemma percentDecode_cons {c : Char} (hc : c.toNat < 0x80 ∧ c ≠ '%') (rest : List Char) :
    percentDecode (c :: rest) = c.toNat :: percentDecode rest := by
  rw [percentDecode, utf8Bytes, if_pos hc.1]
  · rfl
  · exact fun a b rest h _ => hc.2 h

/-- Safe characters are not encoded. -/
lemma percentEncode_eq_self {safe : Char → Bool} {s : List Char} (hs : ∀ c ∈ s, safe c = true) :
    percentEncode safe s = s := by
  have hsingle : s.flatMap (percentChar safe) = s.flatMap fun c => [c] :=
    List.flatMap_congr fun c hc => if_pos (hs c hc)
  rw [percentEncode, hsingle, List.flatMap_singleton']

/-- A component of a URL is made of unreserved characters and percent signs. -/
lemma of_mem_percentEncode {s : List Char} {c : Char} (hc : c ∈ percentEncode isUnreserved s) :
    isUnreserved c = true ∨ c = '%' := by
  have hdigit : ∀ d < 16, isUnreserved (upperHexDigit d) = true := by decide
  obtain ⟨d, -, hc⟩ := List.mem_flatMap.mp hc
  rw [percentChar] at hc
  split at hc
  · rename_i hsafe
    obtain rfl := List.mem_singleton.mp hc
    exact Or.inl hsafe
  · obtain ⟨b, hb, hc⟩ := List.mem_flatMap.mp hc
    have hlt := lt_of_mem_utf8Bytes hb
    simp only [percentByte, List.mem_cons, List.not_mem_nil, or_false] at hc
    rcases hc with rfl | rfl | rfl
    · exact Or.inr rfl
    · exact Or.inl (hdigit _ (by omega))
    · exact Or.inl (hdigit _ (by omega))

/-- An unreserved character is ASCII, and no percent sign. -/
lemma of_isUnreserved {c : Char} (hc : isUnreserved c = true) : c.toNat < 0x80 ∧ c ≠ '%' := by
  constructor
  · simp only [isUnreserved, Bool.or_eq_true, beq_iff_eq] at hc
    rcases hc with (((h | rfl) | rfl) | rfl) | rfl
    · rw [isAlphanum_iff] at h
      omega
    · decide
    · decide
    · decide
    · decide
  · rintro rfl
    cases hc

/-- The bytes of a text are read back from its encoded form, whatever follows. -/
lemma percentDecode_percentEncode (s rest : List Char) :
    percentDecode (percentEncode isUnreserved s ++ rest) =
      s.flatMap utf8Bytes ++ percentDecode rest := by
  have hbytes : ∀ bytes : List ℕ, (∀ b ∈ bytes, b < 256) → ∀ rest,
      percentDecode (bytes.flatMap percentByte ++ rest) = bytes ++ percentDecode rest := by
    intro bytes hbytes rest
    induction bytes with
    | nil => rfl
    | cons b bytes ih =>
      obtain ⟨hb, hbytes⟩ := List.forall_mem_cons.mp hbytes
      rw [List.flatMap_cons, List.append_assoc, percentDecode_percentByte hb, ih hbytes,
        List.cons_append]
  induction s with
  | nil => rfl
  | cons c s ih =>
    rw [percentEncode, List.flatMap_cons, List.append_assoc, List.flatMap_cons, List.append_assoc,
      ← ih, percentChar]
    split
    · rename_i hsafe
      have hascii := of_isUnreserved hsafe
      rw [List.singleton_append, percentDecode_cons hascii, utf8Bytes, if_pos hascii.1]
      rfl
    · exact hbytes _ (fun b hb => lt_of_mem_utf8Bytes hb) _

end Dataflow.Text
