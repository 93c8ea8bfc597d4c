import Dataflow.Proofs.Url.Spelling

/-!
# Texts of addresses

An address is read back from its usual text. For an IPv6 address, the text leaves out the first
longest run of zero pieces; what stands before and after the two colons tells how many there were
(`Ipv6.parse?_text`).
-/

namespace Dataflow.Url

/-! ## Digits -/

/-- A digit has the value that it is the digit of. -/
lemma hexValue?_digitChar {d : ℕ} (hd : d < 16) : Text.hexValue? d.digitChar = some d :=
  Ipv4.hexValue?_eq_some_iff.mpr ⟨hd, .inl rfl⟩

variable {base : ℕ}

/-- A number is read back from its digits. -/
lemma ofDigits_toDigits (hbase : 1 < base) (hle : base ≤ 16) (n : ℕ) :
    Ipv4.ofDigits base (Nat.toDigits base n) = n := by
  induction n using Nat.strong_induction_on with
  | _ n ih =>
    by_cases hlt : n < base
    · rw [Nat.toDigits_of_lt_base hlt]
      simp [Ipv4.ofDigits, hexValue?_digitChar (lt_of_lt_of_le hlt hle)]
    · have hmod : n % base < 16 := lt_of_lt_of_le (Nat.mod_lt n (by omega)) hle
      have hfront := ih (n / base) (Nat.div_lt_self (by omega) hbase)
      rw [Nat.toDigits_of_base_le hbase (not_lt.mp hlt)]
      rw [Ipv4.ofDigits] at hfront ⊢
      rw [List.foldl_append, hfront]
      simp only [List.foldl_cons, List.foldl_nil, hexValue?_digitChar hmod, Option.getD_some]
      exact Nat.div_add_mod' n base

/-- The marks between the numbers of an address are no digits. -/
lemma not_mem_toDigits (hbase : 1 < base) (hle : base ≤ 16) {c : Char} (hc : c = ':' ∨ c = '.')
    (n : ℕ) : c ∉ Nat.toDigits base n := by
  intro hmem
  obtain ⟨d, hd, rfl⟩ := Text.exists_digit_of_mem_toDigits hbase hmem
  have hall : ∀ d < 16, Nat.digitChar d ≠ ':' ∧ Nat.digitChar d ≠ '.' := by decide
  obtain ⟨hcolon, hdot⟩ := hall d (lt_of_lt_of_le hd hle)
  rcases hc with hc | hc
  · exact hcolon hc
  · exact hdot hc

/-! ## IPv4 -/

namespace Ipv4

/-- A text of an address is made of digits and full stops. -/
lemma of_mem_text {a : Ipv4} {c : Char} (hc : c ∈ a.text) :
    c = '.' ∨ ∃ d < 10, c = Nat.digitChar d := by
  rcases Text.mem_of_mem_intercalate hc with hdot | ⟨piece, hpiece, hc⟩
  · exact Or.inl (List.mem_singleton.mp hdot)
  · obtain ⟨n, -, rfl⟩ := List.mem_map.mp hpiece
    exact Or.inr (Text.exists_digit_of_mem_toDigits (by omega) hc)

/-- There are full stops in the text of an address. -/
lemma dot_mem_text (a : Ipv4) : '.' ∈ a.text := by
  rw [text, octets, List.map_cons, List.map_cons, List.intercalate_cons_cons]
  simp

/-- A byte is read back from its digits. -/
lemma octet?_toDigits {n : ℕ} (hn : n < 256) : Ipv6.octet? (Nat.toDigits 10 n) = some n := by
  have hall : ∀ n < 256, Ipv6.octet? (Nat.toDigits 10 n) = some n := by decide +kernel
  exact hall n hn

/-- The bytes of an address are read back from its text. -/
lemma mapM_octet?_text (a : Ipv4) :
    (Text.splitOn '.' a.text).mapM Ipv6.octet? = some a.octets := by
  have hlt := a.isLt
  have hdot : ∀ piece ∈ a.octets.map (Nat.toDigits 10), '.' ∉ piece := by
    intro piece hpiece
    obtain ⟨n, -, rfl⟩ := List.mem_map.mp hpiece
    exact not_mem_toDigits (by omega) (by omega) (Or.inr rfl) n
  rw [text, Text.splitOn_eq, List.splitOn_intercalate '.' hdot (by simp [octets]), octets]
  simp only [List.map_cons, List.map_nil, List.mapM_cons, List.mapM_nil,
    octet?_toDigits (show a.toNat / 0x1000000 < 256 by omega),
    octet?_toDigits (show a.toNat / 0x10000 % 256 < 256 by omega),
    octet?_toDigits (show a.toNat / 0x100 % 256 < 256 by omega),
    octet?_toDigits (show a.toNat % 256 < 256 by omega)]
  rfl

/-- An address is read back from its text. -/
theorem ofDotted?_text (a : Ipv4) : ofDotted? a.text = some a := by
  have hlt := a.isLt
  rw [ofDotted?, mapM_octet?_text, octets]
  simp only [Option.some.injEq, ← BitVec.toNat_inj, ofOctets, BitVec.toNat_ofNat]
  omega

/-- What is written as an address ends in a number. -/
lemma endsInNumber_of_ofDotted? {s : List Char} {a : Ipv4} (h : ofDotted? s = some a) :
    endsInNumber s = true := by
  obtain ⟨last, hlast⟩ : ∃ last, (Text.splitOn '.' s).getLast? = some last :=
    ⟨_, List.getLast?_eq_some_getLast (Text.splitOn_eq '.' s ▸ List.splitOn_ne_nil '.' s)⟩
  have hdigits : last.isEmpty = false ∧ last.all Char.isDigit = true := by
    unfold ofDotted? at h
    split at h
    · rename_i hoctets
      obtain ⟨n, hn⟩ := exists_of_mapM hoctets (List.mem_of_getLast? hlast)
      unfold Ipv6.octet? at hn
      split at hn
      · cases hn
      · rename_i hplain
        simp only [Bool.or_eq_true, not_or, Bool.not_eq_true, Bool.not_eq_false'] at hplain
        exact hplain.1
    · cases h
  have hparts : parts s = Text.splitOn '.' s := by
    have hne : last ≠ [] := by simpa using hdigits.1
    simp [parts, hlast, hne]
  rw [endsInNumber, hparts, hlast]
  simp [hdigits.1, hdigits.2]

end Ipv4

/-! ## IPv6 -/

namespace Ipv6

variable {n : ℕ} {ns : List ℕ}

/-- A piece is read back from its digits. -/
lemma piece?_toDigits (hn : n < 0x10000) : piece? (Nat.toDigits 16 n) = some n := by
  have hlength : (Nat.toDigits 16 n).length ≤ 4 :=
    (Nat.length_toDigits_le_iff (by omega) (by omega)).mpr hn
  have hdigits : (Nat.toDigits 16 n).all Text.isHexDigit = true := by
    rw [List.all_eq_true]
    intro c hc
    obtain ⟨d, hd, rfl⟩ := Text.exists_digit_of_mem_toDigits (by omega) hc
    rw [Text.isHexDigit, hexValue?_digitChar hd]
    rfl
  have hne : (Nat.toDigits 16 n).isEmpty = false := by
    simp [Nat.toDigits_ne_nil]
  simp only [piece?, hne, hdigits, Bool.not_true, Bool.or_false, Bool.false_or, decide_eq_true_eq,
    gt_iff_lt, not_lt.mpr hlength, if_false, ofDigits_toDigits (show 1 < 16 by omega) le_rfl]

/-- Pieces are read back from their text. -/
lemma pieces?_map_toDigits (hns : ∀ n ∈ ns, n < 0x10000) :
    pieces? (ns.map (Nat.toDigits 16)) = some ns := by
  induction ns with
  | nil => rfl
  | cons n ns ih =>
    obtain ⟨hn, hns⟩ := List.forall_mem_cons.mp hns
    cases ns with
    | nil =>
      have hdot : ¬ (Nat.toDigits 16 n).contains '.' = true := by
        rw [List.contains_iff_mem]
        exact not_mem_toDigits (by omega) le_rfl (Or.inr rfl) n
      rw [List.map_singleton, pieces?, if_neg hdot, piece?_toDigits hn]
      rfl
    | cons m ns =>
      have hmore := ih hns
      rw [List.map_cons] at hmore ⊢
      rw [List.map_cons, pieces?, piece?_toDigits hn, hmore]
      · rfl
      · simp

/-- A side of the two colons is read back from its text. -/
lemma side?_piecesText (hns : ∀ n ∈ ns, n < 0x10000) : side? (piecesText ns) = some ns := by
  cases ns with
  | nil => rfl
  | cons n ns =>
    have hcolon : ∀ piece ∈ (n :: ns).map (Nat.toDigits 16), ':' ∉ piece := by
      intro piece hpiece
      obtain ⟨m, -, rfl⟩ := List.mem_map.mp hpiece
      exact not_mem_toDigits (by omega) le_rfl (Or.inl rfl) m
    have hne : (n :: ns).map (Nat.toDigits 16) ≠ [] := by simp
    have hsplit := List.splitOn_intercalate ':' hcolon hne
    have htext : (piecesText (n :: ns)).isEmpty = false := by
      rw [Bool.eq_false_iff, List.isEmpty_iff.ne, piecesText]
      intro hnil
      rw [hnil, List.splitOn_nil] at hsplit
      simp only [List.map_cons, List.cons.injEq] at hsplit
      exact Nat.toDigits_ne_nil hsplit.1.symm
    rw [side?, htext, if_neg (by simp), piecesText, Text.splitOn_eq, hsplit,
      pieces?_map_toDigits hns]

/-- The pieces of a text are cut at the two colons only. -/
lemma cutAtText_piecesText (ns : List ℕ) (s : List Char) :
    Text.cutAtText [':', ':'] (piecesText ns ++ s) =
      (Text.cutAtText [':', ':'] s).map fun cut => (piecesText ns ++ cut.1, cut.2) := by
  refine Text.cutAtText_intercalate (fun piece hpiece => ?_) s
  obtain ⟨m, -, rfl⟩ := List.mem_map.mp hpiece
  exact ⟨Nat.toDigits_ne_nil, not_mem_toDigits (by omega) le_rfl (Or.inl rfl) m⟩

/-- The text of pieces is made of digits and colons. -/
lemma of_mem_piecesText {c : Char} (hc : c ∈ piecesText ns) :
    c = ':' ∨ ∃ d < 16, c = Nat.digitChar d := by
  rcases Text.mem_of_mem_intercalate hc with hcolon | ⟨piece, hpiece, hc⟩
  · exact Or.inl (List.mem_singleton.mp hcolon)
  · obtain ⟨n, -, rfl⟩ := List.mem_map.mp hpiece
    exact Or.inr (Text.exists_digit_of_mem_toDigits (by omega) hc)

/-- A text of an address is made of digits and colons. -/
lemma of_mem_text {a : Ipv6} {c : Char} (hc : c ∈ a.text) :
    c = ':' ∨ ∃ d < 16, c = Nat.digitChar d := by
  rw [text] at hc
  simp only at hc
  split at hc
  · exact of_mem_piecesText hc
  · rcases List.mem_append.mp hc with hc | hc
    · rcases List.mem_append.mp hc with hc | hc
      · exact of_mem_piecesText hc
      · exact Or.inl (by simpa using hc)
    · exact of_mem_piecesText hc

/-- There is no full stop among digits and colons. -/
lemma ne_dot {c : Char} (hc : c = ':' ∨ ∃ d < 16, c = Nat.digitChar d) : c ≠ '.' := by
  have hall : ∀ d < 16, Nat.digitChar d ≠ '.' := by decide
  rcases hc with rfl | ⟨d, hd, rfl⟩
  · decide
  · exact hall d hd

/-! ### Runs of zeros -/

/-- A run of zeros at the start. -/
lemma take_zeroRun (ns : List ℕ) : ns.take (zeroRun ns) = List.replicate (zeroRun ns) 0 := by
  rw [zeroRun]
  induction ns with
  | nil => rfl
  | cons n ns ih =>
    by_cases hn : n = 0
    · subst hn
      simpa [List.takeWhile_cons, List.replicate_succ] using ih
    · simp [hn]

/-- What is found as the longest run is a run of zeros. -/
lemma longestRun_eq (ns : List ℕ) :
    (longestRun ns).2 = 0 ∨ (longestRun ns).2 = zeroRun (ns.drop (longestRun ns).1) := by
  have hfold : ∀ (places : List ℕ) (best : ℕ × ℕ),
      (best.2 = 0 ∨ best.2 = zeroRun (ns.drop best.1)) →
      let found := places.foldl (fun best i =>
        if zeroRun (ns.drop i) > best.2 then (i, zeroRun (ns.drop i)) else best) best
      found.2 = 0 ∨ found.2 = zeroRun (ns.drop found.1) := by
    intro places
    induction places with
    | nil => exact fun best h => h
    | cons i places ih =>
      intro best h
      rw [List.foldl_cons]
      refine ih _ ?_
      split
      · exact Or.inr rfl
      · exact h
  exact hfold _ (0, 0) (Or.inl rfl)

/-- The pieces around the longest run and as many zeros as the run has are all pieces. -/
lemma append_longestRun (ns : List ℕ) :
    ns.take (longestRun ns).1 ++ List.replicate (longestRun ns).2 0 ++
      ns.drop ((longestRun ns).1 + (longestRun ns).2) = ns := by
  have hrun : (ns.drop (longestRun ns).1).take (longestRun ns).2 =
      List.replicate (longestRun ns).2 0 := by
    rcases longestRun_eq ns with hzero | hrun
    · rw [hzero]
      rfl
    · rw [hrun]
      exact take_zeroRun _
  rw [← hrun, List.append_assoc, ← List.drop_drop, List.take_append_drop, List.take_append_drop]

/-- An address is read back from its text. -/
theorem parse?_text (a : Ipv6) : parse? a.text = some a := by
  have hlength : (a.pieces.map BitVec.toNat).length = 8 := by rw [List.length_map, a.length_eq]
  have hlt : ∀ n ∈ a.pieces.map BitVec.toNat, n < 0x10000 := by
    intro n hn
    obtain ⟨piece, -, rfl⟩ := List.mem_map.mp hn
    exact piece.isLt
  have hall : ofPieces? (a.pieces.map BitVec.toNat) = some a := by
    have hwords : (a.pieces.map BitVec.toNat).map (BitVec.ofNat 16) = a.pieces := by
      rw [List.map_map]
      exact List.map_id'' (fun piece => by simp) a.pieces
    rw [ofPieces?]
    simp only [hwords, a.length_eq, dif_pos]
  rw [text]
  generalize a.pieces.map BitVec.toNat = ns at hlength hlt hall
  have hns := append_longestRun ns
  cases hrun : longestRun ns with
  | mk start length =>
    rw [hrun] at hns
    simp only at hns ⊢
    split
    · have hcut := cutAtText_piecesText ns []
      rw [List.append_nil] at hcut
      rw [parse?, hcut, side?_piecesText hlt]
      exact hall
    · rename_i hlong
      have hsum : start + length ≤ 8 := by
        have hcount := congrArg List.length hns
        simp only [List.length_append, List.length_take, List.length_replicate, List.length_drop,
          hlength] at hcount
        omega
      have hhigh := side?_piecesText fun n hn => hlt n (List.mem_of_mem_take (i := start) hn)
      have hlow := side?_piecesText fun n hn =>
        hlt n (List.mem_of_mem_drop (i := start + length) hn)
      have hcut : Text.cutAtText [':', ':'] (piecesText (ns.take start) ++ [':', ':'] ++
          piecesText (ns.drop (start + length))) =
            some (piecesText (ns.take start), piecesText (ns.drop (start + length))) := by
        rw [List.append_assoc, cutAtText_piecesText]
        simp [Text.cutAtText, Text.dropStart?]
      have hdot : ¬ (piecesText (ns.take start)).contains '.' = true := by
        rw [List.contains_iff_mem]
        exact fun hmem => ne_dot (of_mem_piecesText hmem) rfl
      rw [parse?, hcut]
      simp only
      rw [if_neg hdot, hhigh, hlow]
      simp only [Option.bind_eq_bind, Option.bind_some, List.length_take, List.length_drop, hlength]
      have hzeros : 8 - min start 8 - (8 - (start + length)) = length := by omega
      rw [if_neg (by omega), hzeros, hns, hall]

/-- What is written as an address has a colon in it. -/
lemma parse?_of_not_mem {s : List Char} (hs : ':' ∉ s) : parse? s = none := by
  have hshort : ∀ ns : List ℕ, ns.length < 8 → ofPieces? ns = none := by
    intro ns hns
    rw [ofPieces?]
    simp only [List.length_map]
    rw [dif_neg hns.ne]
  have hcut : Text.cutAtText [':', ':'] s = none := by
    have hcut := Text.cutAtText_append hs []
    rwa [List.append_nil] at hcut
  rw [parse?, hcut]
  simp only
  rw [Option.bind_eq_none_iff]
  intro ns hside
  unfold side? at hside
  split at hside
  · obtain rfl := Option.some.inj hside
    exact hshort [] (by simp)
  · rw [Text.splitOn_eq, List.splitOn_eq_singleton hs, pieces?] at hside
    split at hside
    · unfold embedded? at hside
      split at hside
      · obtain rfl := Option.some.inj hside
        exact hshort _ (by simp)
      · cases hside
    · obtain ⟨n, -, rfl⟩ := Option.map_eq_some_iff.mp hside
      exact hshort _ (by simp)

/-- The text of an address is not that of an IPv4 address. -/
lemma ofDotted?_text (a : Ipv6) : Ipv4.ofDotted? a.text = none := by
  have hdot : '.' ∉ a.text := fun hmem => ne_dot (of_mem_text hmem) rfl
  rw [Ipv4.ofDotted?, Text.splitOn_eq, List.splitOn_eq_singleton hdot]
  cases hoctet : octet? a.text with
  | none => simp [hoctet]
  | some n => simp [hoctet]

end Ipv6

end Dataflow.Url
