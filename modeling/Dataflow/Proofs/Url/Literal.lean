import Dataflow.Proofs.Decimal.Digits
import Dataflow.Proofs.Url.AddressText

/-!
# Literals of IPv6 addresses

An IPv6 address is spelled by eight pieces with colons between them; the last two may be spelled as
an IPv4 address, and two colons may stand once for pieces that are zero (`Ipv6.Spells`). These
literals and no others are read as the address (`Ipv6.parse?_eq_some_iff`).
-/

namespace Dataflow.Url

/-! ## Bytes -/

/-- A byte is read from its digits only. -/
lemma Ipv6.octet?_eq_some_iff {s : List Char} {n : ℕ} :
    octet? s = some n ↔ n < 256 ∧ s = Nat.toDigits 10 n := by
  constructor
  · intro h
    unfold octet? at h
    split at h
    · cases h
    · rename_i hplain
      simp only [Bool.or_eq_true, not_or, Bool.and_eq_true, decide_eq_true_eq, beq_iff_eq,
        Bool.not_eq_true, Bool.not_eq_false', List.isEmpty_eq_false_iff, List.all_eq_true] at hplain
      obtain ⟨⟨hne, hdigits⟩, hzero⟩ := hplain
      simp only at h
      split at h
      · rename_i hlt
        obtain rfl := Option.some.inj h
        refine ⟨hlt, ?_⟩
        by_cases hhead : s.head? = some '0'
        · obtain ⟨rest, rfl⟩ := List.head?_eq_some_iff.mp hhead
          cases rest with
          | nil => rfl
          | cons c rest => exact absurd ⟨by simp, rfl⟩ hzero
        · exact (Decimal.digitsOf_natOfDigits hdigits hne hhead).symm
      · cases h
  · rintro ⟨hn, rfl⟩
    exact Ipv4.octet?_toDigits hn

namespace Ipv6

/-! ## Pieces -/

/-- The text is a piece: one to four hexadecimal digits. -/
structure IsPiece (s : List Char) (n : ℕ) : Prop where
  writes : Ipv4.Writes 16 s n
  ne_nil : s ≠ []
  short : s.length ≤ 4

/-- The texts that stand between single colons are pieces; the last one may be an IPv4 address in
its usual form, which stands for two. -/
inductive Group : List (List Char) → List ℕ → Prop
  | nil : Group [] []
  | dotted (v4 : Ipv4) : Group [v4.text] [v4.toNat / 0x10000, v4.toNat % 0x10000]
  | cons {s : List Char} {n : ℕ} {texts : List (List Char)} {ns : List ℕ} (hs : IsPiece s n)
    (h : Group texts ns) : Group (s :: texts) (n :: ns)

/-- The literal spells the address: its pieces stand in it with single colons between them, or two
colons stand once for some pieces that are zero. -/
inductive Spells : List Char → Ipv6 → Prop
  | full {texts : List (List Char)} {a : Ipv6} (h : Group texts (a.pieces.map BitVec.toNat)) :
    Spells (List.intercalate [':'] texts) a
  | shortened {before after : List (List Char)} {high low : List ℕ} {zeros : ℕ} {a : Ipv6}
    (hhigh : List.Forall₂ IsPiece before high) (hlow : Group after low) (hzeros : 0 < zeros)
    (h : a.pieces.map BitVec.toNat = high ++ List.replicate zeros 0 ++ low) :
    Spells (List.intercalate [':'] before ++ [':', ':'] ++ List.intercalate [':'] after) a

variable {s : List Char} {n : ℕ} {texts : List (List Char)} {ns : List ℕ} {a : Ipv6}

/-- A piece is read from its digits only. -/
lemma piece?_eq_some_iff : piece? s = some n ↔ IsPiece s n := by
  have hdigits : Ipv4.allDigits 16 s = s.all Text.isHexDigit := by
    refine List.all_congr rfl fun c => ?_
    rw [Text.isHexDigit]
    cases hvalue : Text.hexValue? c with
    | none => rfl
    | some d => simp [(Ipv4.hexValue?_eq_some_iff.mp hvalue).1]
  have hwrites : Ipv4.Writes 16 s n ↔ _ := Ipv4.writes_iff le_rfl
  rw [hdigits] at hwrites
  unfold piece?
  constructor
  · intro h
    split at h
    · cases h
    · rename_i hplain
      simp only [Bool.or_eq_true, not_or, decide_eq_true_eq, Bool.not_eq_true, Bool.not_eq_false',
        List.isEmpty_eq_false_iff, gt_iff_lt, not_lt] at hplain
      exact ⟨hwrites.mpr ⟨hplain.2, Option.some.inj h⟩, hplain.1.1, hplain.1.2⟩
  · rintro ⟨h, hne, hshort⟩
    obtain ⟨hall, hvalue⟩ := hwrites.mp h
    have hshort : ¬ s.length > 4 := by omega
    simp [hne, hshort, hall, hvalue]

/-- A piece is a number of 16 bits, and there are no marks in it. -/
lemma IsPiece.lt_and_not_mem (h : IsPiece s n) : n < 0x10000 ∧ ':' ∉ s ∧ '.' ∉ s := by
  obtain ⟨⟨ds, hds, hn⟩, -, hshort⟩ := h
  have hlength := hds.length_eq
  have hmark : ∀ c ∈ s, ∃ d, Ipv4.IsDigit 16 c d := fun c hc => exists_of_forall₂ hds hc
  have hnone : ∀ c, Text.hexValue? c = none → c ∉ s := by
    intro c hc hmem
    obtain ⟨d, hd⟩ := hmark c hmem
    rw [Ipv4.hexValue?_eq_some_iff.mpr hd] at hc
    cases hc
  refine ⟨?_, hnone ':' (by decide), hnone '.' (by decide)⟩
  have hbound : Nat.ofDigits 16 ds.reverse < 16 ^ ds.reverse.length := by
    refine Nat.ofDigits_lt_base_pow_length (by decide) fun d hd => ?_
    obtain ⟨c, hc⟩ := exists_of_forall₂ hds.flip (List.mem_reverse.mp hd)
    exact hc.1
  calc n < 16 ^ ds.length := by rwa [hn, List.length_reverse] at hbound
    _ ≤ 16 ^ 4 := Nat.pow_le_pow_right (by decide) (by omega)
    _ = 0x10000 := by norm_num

/-- Two pieces are read from an IPv4 address in its usual form only. -/
lemma embedded?_eq_some_iff : embedded? s = some ns ↔
    ∃ v4 : Ipv4, s = v4.text ∧ ns = [v4.toNat / 0x10000, v4.toNat % 0x10000] := by
  unfold embedded?
  constructor
  · intro h
    split at h
    · rename_i b0 b1 b2 b3 hoctets
      obtain rfl := Option.some.inj h
      have hbytes := (mapM_eq_some_iff.mp hoctets).imp fun _ _ => octet?_eq_some_iff.mp
      have hpieces : Text.splitOn '.' s = [b0, b1, b2, b3].map (Nat.toDigits 10) := by
        rw [← List.forall₂_eq_eq_eq, List.forall₂_map_right_iff]
        exact hbytes.imp fun _ _ h => h.2
      have hlt : ∀ b ∈ [b0, b1, b2, b3], b < 256 := fun b hb =>
        let ⟨_, h⟩ := exists_of_forall₂ hbytes.flip hb
        h.1
      simp only [List.forall_mem_cons, List.not_mem_nil, false_implies, implies_true,
        and_true] at hlt
      obtain ⟨h0, h1, h2, h3⟩ := hlt
      have hvalue : (Ipv4.ofOctets b0 b1 b2 b3).toNat =
          ((b0 * 256 + b1) * 256 + b2) * 256 + b3 := by
        rw [Ipv4.ofOctets, BitVec.toNat_ofNat, Nat.mod_eq_of_lt (by omega)]
      have hself : (Ipv4.ofOctets b0 b1 b2 b3).octets = [b0, b1, b2, b3] := by
        simp only [Ipv4.octets, hvalue, List.cons.injEq, and_true]
        omega
      refine ⟨.ofOctets b0 b1 b2 b3, ?_, ?_⟩
      · rw [Ipv4.text, hself, ← hpieces, Text.splitOn_eq, List.intercalate_splitOn]
      · rw [hvalue]
        simp only [List.cons.injEq, and_true]
        omega
    · cases h
  · rintro ⟨v4, rfl, rfl⟩
    rw [Ipv4.mapM_octet?_text, Ipv4.octets]
    simp only [Option.some.injEq, List.cons.injEq, and_true]
    omega

/-- Pieces are a group. -/
lemma Group.of_pieces (h : List.Forall₂ IsPiece texts ns) : Group texts ns := by
  induction h with
  | nil => exact .nil
  | cons hs _ ih => exact .cons hs ih

/-- A group of texts without full stops is made of pieces. -/
lemma Group.pieces (h : Group texts ns) (hdot : ∀ s ∈ texts, '.' ∉ s) :
    List.Forall₂ IsPiece texts ns := by
  induction h with
  | nil => exact .nil
  | dotted v4 => exact absurd v4.dot_mem_text (hdot v4.text List.mem_cons_self)
  | cons hs _ ih => exact .cons hs (ih (List.forall_mem_cons.mp hdot).2)

/-- The texts of a group have no colons in them and are not empty, and the pieces are numbers of 16
bits. -/
lemma Group.of_mem (h : Group texts ns) :
    (∀ s ∈ texts, s ≠ [] ∧ ':' ∉ s) ∧ ∀ n ∈ ns, n < 0x10000 := by
  induction h with
  | nil => simp
  | dotted v4 =>
    have hlt := v4.isLt
    refine ⟨List.forall_mem_singleton.mpr ⟨fun hnil => ?_, fun hcolon => ?_⟩, ?_⟩
    · have hdot := v4.dot_mem_text
      rw [hnil] at hdot
      cases hdot
    · rcases Ipv4.of_mem_text hcolon with h | ⟨d, hd, h⟩
      · cases h
      · have hall : ∀ d < 10, ':' ≠ Nat.digitChar d := by decide
        exact hall d hd h
    · simp only [List.mem_cons, List.not_mem_nil, or_false]
      omega
  | cons hs _ ih =>
    obtain ⟨hn, hcolon, -⟩ := hs.lt_and_not_mem
    exact ⟨List.forall_mem_cons.mpr ⟨⟨hs.ne_nil, hcolon⟩, ih.1⟩,
      List.forall_mem_cons.mpr ⟨hn, ih.2⟩⟩

/-- The pieces between single colons are read from groups only. -/
lemma pieces?_eq_some_iff : pieces? texts = some ns ↔ Group texts ns := by
  induction texts generalizing ns with
  | nil =>
    rw [pieces?, Option.some.injEq]
    constructor
    · rintro rfl
      exact .nil
    · intro h
      cases h
      rfl
  | cons s rest ih =>
    cases rest with
    | nil =>
      rw [pieces?]
      split
      · rename_i hdot
        rw [embedded?_eq_some_iff]
        constructor
        · rintro ⟨v4, rfl, rfl⟩
          exact .dotted v4
        · intro h
          cases h with
          | dotted v4 => exact ⟨v4, rfl, rfl⟩
          | cons hs _ => exact absurd (List.contains_iff_mem.mp hdot) hs.lt_and_not_mem.2.2
      · rename_i hdot
        rw [Option.map_eq_some_iff]
        constructor
        · rintro ⟨n, hn, rfl⟩
          exact .cons (piece?_eq_some_iff.mp hn) .nil
        · intro h
          cases h with
          | dotted v4 => exact absurd (List.contains_iff_mem.mpr v4.dot_mem_text) hdot
          | cons hs h =>
            cases h
            exact ⟨_, piece?_eq_some_iff.mpr hs, rfl⟩
    | cons t rest =>
      rw [pieces?]
      · simp only [Option.bind_eq_bind, Option.bind_eq_some_iff]
        constructor
        · rintro ⟨n, hn, more, hmore, h⟩
          obtain rfl := Option.some.inj h
          exact .cons (piece?_eq_some_iff.mp hn) (ih.mp hmore)
        · intro h
          cases h with
          | cons hs h => exact ⟨_, piece?_eq_some_iff.mpr hs, _, ih.mpr h, rfl⟩
      · simp

/-- A side of the two colons is read from a group with single colons between its texts. -/
lemma side?_eq_some_iff :
    side? s = some ns ↔ ∃ texts, Group texts ns ∧ s = List.intercalate [':'] texts := by
  have hsplit : ∀ {texts}, Group texts ns → texts ≠ [] →
      (List.intercalate [':'] texts).splitOn ':' = texts := fun h hne =>
    List.splitOn_intercalate ':' (fun s hs => (h.of_mem.1 s hs).2) hne
  unfold side?
  split
  · rename_i hempty
    obtain rfl := List.isEmpty_iff.mp hempty
    constructor
    · intro h
      obtain rfl := Option.some.inj h
      exact ⟨[], .nil, rfl⟩
    · rintro ⟨texts, h, hs⟩
      cases texts with
      | nil =>
        cases h
        rfl
      | cons t rest =>
        have hself := hsplit h (List.cons_ne_nil t rest)
        rw [← hs, List.splitOn_nil, List.cons.injEq] at hself
        exact absurd hself.1.symm (h.of_mem.1 t List.mem_cons_self).1
  · rename_i hne
    rw [Text.splitOn_eq, pieces?_eq_some_iff]
    constructor
    · intro h
      exact ⟨_, h, (List.intercalate_splitOn ':').symm⟩
    · rintro ⟨texts, h, rfl⟩
      have htexts : texts ≠ [] := by
        rintro rfl
        exact hne rfl
      rwa [hsplit h htexts]

/-! ## Literals -/

/-- Eight numbers of 16 bits are the pieces of an address. -/
lemma ofPieces?_eq_some_iff (hns : ∀ n ∈ ns, n < 0x10000) :
    ofPieces? ns = some a ↔ a.pieces.map BitVec.toNat = ns := by
  have hself : (ns.map (BitVec.ofNat 16)).map BitVec.toNat = ns := by
    rw [List.map_map]
    refine (List.map_congr_left fun n hn => ?_).trans (List.map_id ns)
    simp [Nat.mod_eq_of_lt (hns n hn)]
  unfold ofPieces?
  simp only
  constructor
  · intro h
    split at h
    · obtain rfl := Option.some.inj h
      exact hself
    · cases h
  · intro h
    have hwords : ns.map (BitVec.ofNat 16) = a.pieces := by
      rw [← h, List.map_map]
      exact List.map_id'' (fun piece => by simp) a.pieces
    simp only [hwords, a.length_eq, dif_pos]

/-- What is read as an address spells it. -/
lemma spells_of_parse? (h : parse? s = some a) : Spells s a := by
  unfold parse? at h
  split at h
  · obtain ⟨ns, hns, hpieces⟩ := Option.bind_eq_some_iff.mp h
    obtain ⟨texts, hgroup, rfl⟩ := side?_eq_some_iff.mp hns
    rw [ofPieces?_eq_some_iff hgroup.of_mem.2] at hpieces
    exact .full (hpieces ▸ hgroup)
  · rename_i before after hcut
    obtain rfl := Text.eq_of_cutAtText hcut
    split at h
    · cases h
    · rename_i hdot
      simp only [Option.bind_eq_bind, Option.bind_eq_some_iff] at h
      obtain ⟨high, hbefore, low, hafter, h⟩ := h
      obtain ⟨before, hhigh, rfl⟩ := side?_eq_some_iff.mp hbefore
      obtain ⟨after, hlow, rfl⟩ := side?_eq_some_iff.mp hafter
      split at h
      · cases h
      · rename_i hlong
        rw [ofPieces?_eq_some_iff (fun n hn => ?_)] at h
        · refine .shortened (hhigh.pieces fun s hs hmem => ?_) hlow (by omega) h
          exact hdot (List.contains_iff_mem.mpr ((Text.infix_intercalate [':'] hs).subset hmem))
        · simp only [List.mem_append, List.mem_replicate] at hn
          rcases hn with (hn | ⟨-, rfl⟩) | hn
          · exact hhigh.of_mem.2 n hn
          · decide
          · exact hlow.of_mem.2 n hn

/-- A literal without two colons is read as the address that it spells. -/
lemma parse?_full (h : Group texts (a.pieces.map BitVec.toNat)) :
    parse? (List.intercalate [':'] texts) = some a := by
  have hcut := Text.cutAtText_intercalate h.of_mem.1 []
  rw [List.append_nil] at hcut
  rw [parse?, hcut]
  exact Option.bind_eq_some_iff.mpr ⟨_, side?_eq_some_iff.mpr ⟨texts, h, rfl⟩,
    (ofPieces?_eq_some_iff h.of_mem.2).mpr rfl⟩

/-- A literal with two colons is read as the address that it spells. -/
lemma parse?_shortened {before after : List (List Char)} {high low : List ℕ} {zeros : ℕ}
    (hhigh : List.Forall₂ IsPiece before high) (hlow : Group after low) (hzeros : 0 < zeros)
    (h : a.pieces.map BitVec.toNat = high ++ List.replicate zeros 0 ++ low) :
    parse? (List.intercalate [':'] before ++ [':', ':'] ++ List.intercalate [':'] after) =
      some a := by
  have hcut : Text.cutAtText [':', ':'] (List.intercalate [':'] before ++ [':', ':'] ++
      List.intercalate [':'] after) =
        some (List.intercalate [':'] before, List.intercalate [':'] after) := by
    rw [List.append_assoc, Text.cutAtText_intercalate (Group.of_pieces hhigh).of_mem.1,
      Text.cutAtText_start (by simp)]
    simp
  have hdot : ¬ (List.intercalate [':'] before).contains '.' = true := by
    rw [List.contains_iff_mem]
    intro hmem
    rcases Text.mem_of_mem_intercalate hmem with hmem | ⟨piece, hpiece, hmem⟩
    · cases List.mem_singleton.mp hmem
    · obtain ⟨n, hn⟩ := exists_of_forall₂ hhigh hpiece
      exact hn.lt_and_not_mem.2.2 hmem
  have hcount := congrArg List.length h
  simp only [List.length_map, a.length_eq, List.length_append, List.length_replicate] at hcount
  have hbounds : ∀ n ∈ a.pieces.map BitVec.toNat, n < 0x10000 := by
    intro n hn
    obtain ⟨piece, -, rfl⟩ := List.mem_map.mp hn
    exact piece.isLt
  rw [parse?, hcut]
  simp only
  rw [if_neg hdot, side?_eq_some_iff.mpr ⟨before, .of_pieces hhigh, rfl⟩,
    side?_eq_some_iff.mpr ⟨after, hlow, rfl⟩]
  simp only [Option.bind_eq_bind, Option.bind_some]
  rw [if_neg (by omega), show 8 - high.length - low.length = zeros by omega, ← h,
    ofPieces?_eq_some_iff hbounds]

/-- The literals that spell addresses are read as these addresses, and no others are. -/
theorem parse?_eq_some_iff : parse? s = some a ↔ Spells s a := by
  refine ⟨spells_of_parse?, fun h => ?_⟩
  cases h with
  | full h => exact parse?_full h
  | shortened hhigh hlow hzeros h => exact parse?_shortened hhigh hlow hzeros h

end Ipv6

end Dataflow.Url
