import Dataflow.Decimal.Numeral
import Dataflow.Proofs.Text.Characters

/-!
# The extent of numerals

A numeral consists of letters, digits, signs and points (`numeralChar_of_readFloat`), and it cannot
be continued by any other character: a numeral followed by a blank or an operator is no numeral any
more (`readFloat_append`). So a numeral at the start of a longer expression is not mistaken for the
whole of it. Integers are numerals, too (`readFloat_of_readInt64`).
-/

namespace Dataflow.Decimal

variable {s t rest : List Char} {a c : Char}

/-- The characters that end a numeral: a sign ends it, too, since numerals do not end with the mark
of the exponent. -/
structure Breaks (c : Char) : Prop where
  not_alphanum : c.isAlphanum = false
  ne_point : c ≠ '.'

/-- The characters of numerals. -/
def NumeralChar (c : Char) : Prop := c.isAlphanum = true ∨ c = '-' ∨ c = '+' ∨ c = '.'

lemma Breaks.not_digit (hc : Breaks c) : c.isDigit = false := by
  have h := hc.not_alphanum
  simp only [Char.isAlphanum, Bool.or_eq_false_iff] at h
  exact h.2

lemma Breaks.not_alpha (hc : Breaks c) : c.isAlpha = false := by
  have h := hc.not_alphanum
  simp only [Char.isAlphanum, Bool.or_eq_false_iff] at h
  exact h.1

lemma isAlphanum_of_isDigit (ha : a.isDigit = true) : a.isAlphanum = true := by
  rw [Char.isAlphanum, ha, Bool.or_true]

/-! ## Signs and digits -/

/-- What follows a text does not change its sign. -/
lemma takeSign_append (hs : s ≠ []) (t : List Char) :
    takeSign (s ++ t) = ((takeSign s).1, (takeSign s).2 ++ t) := by
  obtain ⟨a, s, rfl⟩ := List.exists_cons_of_ne_nil hs
  rw [List.cons_append]
  unfold takeSign
  split <;> split <;> simp_all

/-- A single character is a sign or is left. -/
lemma takeSign_singleton (c : Char) : (takeSign [c]).2 = [] ∨ (takeSign [c]).2 = [c] := by
  unfold takeSign
  split
  · rename_i h
    exact Or.inl (List.cons.inj h).2.symm
  · rename_i h
    exact Or.inl (List.cons.inj h).2.symm
  · exact Or.inr rfl

/-- Only a sign is taken. -/
lemma mem_takeSign (ha : a ∈ s) : a ∈ (takeSign s).2 ∨ a = '-' ∨ a = '+' := by
  unfold takeSign
  split
  · rcases List.mem_cons.mp ha with rfl | ha
    · exact Or.inr (Or.inl rfl)
    · exact Or.inl ha
  · rcases List.mem_cons.mp ha with rfl | ha
    · exact Or.inr (Or.inr rfl)
    · exact Or.inl ha
  · exact Or.inl ha

/-- A character that is no digit ends the digits. -/
lemma takeDigits_append (hc : c.isDigit = false) (s rest : List Char) :
    takeDigits (s ++ c :: rest) = ((takeDigits s).1, (takeDigits s).2 ++ c :: rest) := by
  induction s with
  | nil => simp [takeDigits, hc]
  | cons a s ih =>
    simp only [takeDigits, Prod.mk.injEq] at ih ⊢
    by_cases ha : a.isDigit = true
    · simp [ha, ih.1, ih.2]
    · simp [ha]

/-- The digits and the rest are the whole text. -/
lemma takeDigits_fst_append_snd (s : List Char) : (takeDigits s).1 ++ (takeDigits s).2 = s :=
  List.takeWhile_append_dropWhile

/-- The digits are digits. -/
lemma isDigit_of_mem_takeDigits (ha : a ∈ (takeDigits s).1) : a.isDigit = true :=
  List.mem_takeWhile_imp ha

/-- A character is a digit or in the rest. -/
lemma mem_takeDigits (ha : a ∈ s) : a.isDigit = true ∨ a ∈ (takeDigits s).2 := by
  rw [← takeDigits_fst_append_snd s] at ha
  rcases List.mem_append.mp ha with ha | ha
  · exact Or.inl (isDigit_of_mem_takeDigits ha)
  · exact Or.inr ha

/-! ## Exponents -/

/-- What an exponent part is: nothing, or a mark, perhaps a sign, and digits. -/
lemma readExponent_ne_none_iff :
    readExponent s ≠ none ↔ s = [] ∨ ∃ mark exponent, s = mark :: exponent ∧
      (mark = 'e' ∨ mark = 'E') ∧ (takeDigits (takeSign exponent).2).1 ≠ [] ∧
        (takeDigits (takeSign exponent).2).2 = [] := by
  cases s with
  | nil => simp [readExponent]
  | cons mark exponent =>
    rw [readExponent]
    by_cases hmark : mark = 'e' ∨ mark = 'E'
    · rw [if_pos (by simpa using hmark)]
      simp only [List.isEmpty_iff, Bool.or_eq_true, Bool.not_eq_true', ← Bool.not_eq_true]
      by_cases hempty : (takeDigits (takeSign exponent).2).1 = [] ∨
          ¬ (takeDigits (takeSign exponent).2).2 = []
      · rw [if_pos hempty]
        simp only [ne_eq, not_true_eq_false, false_iff]
        rintro (h | ⟨mark', exponent', h, -, hne, hnil⟩)
        · cases h
        · obtain ⟨-, rfl⟩ := List.cons.inj h
          rcases hempty with h | h
          · exact hne h
          · exact h hnil
      · rw [if_neg hempty]
        push Not at hempty
        exact ⟨fun _ => Or.inr ⟨mark, exponent, rfl, hmark, hempty⟩, fun _ => by simp⟩
    · rw [if_neg (by simpa using hmark)]
      simp only [ne_eq, not_true_eq_false, false_iff]
      rintro (h | ⟨mark', exponent', h, hmark', -⟩)
      · cases h
      · obtain ⟨rfl, -⟩ := List.cons.inj h
        exact hmark hmark'

/-- An exponent part cannot be continued. -/
lemma readExponent_append (hs : readExponent s ≠ none) (hc : Breaks c) (rest : List Char) :
    readExponent (s ++ c :: rest) = none := by
  by_contra hne
  rcases readExponent_ne_none_iff.mp hne with hnil | ⟨mark, exponent, heq, hmark, -, hempty⟩
  · simp at hnil
  rcases readExponent_ne_none_iff.mp hs with rfl | ⟨mark', exponent', rfl, -, hdigits, -⟩
  · obtain ⟨rfl, -⟩ := List.cons.inj heq
    have halpha := hc.not_alpha
    rcases hmark with rfl | rfl
    · revert halpha
      decide
    · revert halpha
      decide
  · rw [List.cons_append] at heq
    obtain ⟨rfl, rfl⟩ := List.cons.inj heq
    have hexponent : exponent' ≠ [] := by
      rintro rfl
      exact hdigits rfl
    rw [takeSign_append hexponent, takeDigits_append hc.not_digit] at hempty
    simp at hempty

/-- An exponent part ends with a digit. -/
lemma readExponent_concat (hc : Breaks c) (s : List Char) : readExponent (s ++ [c]) = none := by
  by_contra hne
  rcases readExponent_ne_none_iff.mp hne with hnil | ⟨mark, exponent, heq, -, hdigits, hempty⟩
  · simp at hnil
  cases s with
  | nil =>
    obtain ⟨-, rfl⟩ := List.cons.inj heq
    exact hdigits rfl
  | cons a s =>
    obtain ⟨-, rfl⟩ := List.cons.inj heq
    change ((takeDigits (takeSign (s ++ [c])).2).1 ≠ []) at hdigits
    change ((takeDigits (takeSign (s ++ [c])).2).2 = []) at hempty
    cases s with
    | nil =>
      have htake : (takeDigits [c]).1 = [] := by simp [takeDigits, hc.not_digit]
      rcases takeSign_singleton c with h | h
      · rw [List.nil_append, h] at hdigits
        exact hdigits rfl
      · rw [List.nil_append, h] at hdigits
        exact hdigits htake
    | cons b s =>
      rw [takeSign_append (List.cons_ne_nil b s), takeDigits_append hc.not_digit] at hempty
      simp at hempty

/-- The characters of an exponent part. -/
lemma numeralChar_of_readExponent (hs : readExponent s ≠ none) (ha : a ∈ s) : NumeralChar a := by
  rcases readExponent_ne_none_iff.mp hs with rfl | ⟨mark, exponent, rfl, hmark, -, hempty⟩
  · simp at ha
  rcases List.mem_cons.mp ha with rfl | ha
  · left
    rcases hmark with rfl | rfl
    · decide
    · decide
  · rcases mem_takeSign ha with ha | ha | ha
    · rcases mem_takeDigits ha with ha | ha
      · exact Or.inl (isAlphanum_of_isDigit ha)
      · rw [hempty] at ha
        simp at ha
    · exact Or.inr (Or.inl ha)
    · exact Or.inr (Or.inr (Or.inl ha))

/-! ## Magnitudes -/

/-- The fraction after the whole digits, and what follows it. -/
def takeFraction : List Char → List Char × List Char
  | '.' :: rest => takeDigits rest
  | rest => ([], rest)

/-- An unsigned numeral has digits, and an exponent part behind its fraction. -/
lemma readUnsigned_ne_none_iff :
    readUnsigned s ≠ none ↔
      ((takeDigits s).1 ≠ [] ∨ (takeFraction (takeDigits s).2).1 ≠ []) ∧
        readExponent (takeFraction (takeDigits s).2).2 ≠ none := by
  have hunfold : readUnsigned s =
      if (takeDigits s).1.isEmpty && (takeFraction (takeDigits s).2).1.isEmpty then none
      else (readExponent (takeFraction (takeDigits s).2).2).map fun e : ℤ =>
        (natOfDigits ((takeDigits s).1 ++ (takeFraction (takeDigits s).2).1),
          e - (takeFraction (takeDigits s).2).1.length) := rfl
  rw [hunfold]
  split
  · rename_i hempty
    simp only [Bool.and_eq_true, List.isEmpty_iff] at hempty
    simp [hempty.1, hempty.2]
  · rename_i hempty
    simp only [Bool.and_eq_true, List.isEmpty_iff, not_and_or] at hempty
    simp [hempty]

/-- A character that ends numerals ends the fraction. -/
lemma takeFraction_append (hc : Breaks c) (s rest : List Char) :
    takeFraction (s ++ c :: rest) = ((takeFraction s).1, (takeFraction s).2 ++ c :: rest) := by
  cases s with
  | nil =>
    rw [List.nil_append, takeFraction]
    · rfl
    · intro rest' h
      exact hc.ne_point (List.cons.inj h).1
  | cons a s =>
    by_cases ha : a = '.'
    · subst ha
      exact takeDigits_append hc.not_digit s rest
    · have hnot : ∀ t : List Char, takeFraction (a :: t) = ([], a :: t) := fun t => by
        rw [takeFraction]
        intro rest' h
        exact ha (List.cons.inj h).1
      rw [List.cons_append, hnot, hnot, List.cons_append]

/-- An unsigned numeral cannot be continued. -/
lemma readUnsigned_append (hs : readUnsigned s ≠ none) (hc : Breaks c) (rest : List Char) :
    readUnsigned (s ++ c :: rest) = none := by
  obtain ⟨-, hexponent⟩ := readUnsigned_ne_none_iff.mp hs
  by_contra hne
  obtain ⟨-, hexponent'⟩ := readUnsigned_ne_none_iff.mp hne
  rw [takeDigits_append hc.not_digit, takeFraction_append hc] at hexponent'
  exact hexponent' (readExponent_append hexponent hc rest)

/-- An unsigned numeral ends with a digit or a point. -/
lemma readUnsigned_concat (hc : Breaks c) (s : List Char) : readUnsigned (s ++ [c]) = none := by
  by_contra hne
  obtain ⟨-, hexponent⟩ := readUnsigned_ne_none_iff.mp hne
  rw [takeDigits_append hc.not_digit, takeFraction_append hc] at hexponent
  exact hexponent (readExponent_concat hc _)

/-- An unsigned numeral starts with a digit or a point. -/
lemma readUnsigned_cons_eq_none (ha : a.isDigit = false) (hpoint : a ≠ '.') (s : List Char) :
    readUnsigned (a :: s) = none := by
  by_contra hne
  obtain ⟨hdigits, -⟩ := readUnsigned_ne_none_iff.mp hne
  have htake : takeDigits (a :: s) = ([], a :: s) := by simp [takeDigits, ha]
  have hfraction : takeFraction (a :: s) = ([], a :: s) := by
    rw [takeFraction]
    intro rest' h
    exact hpoint (List.cons.inj h).1
  rw [htake, hfraction] at hdigits
  simp at hdigits

/-- The characters of an unsigned numeral. -/
lemma numeralChar_of_readUnsigned (hs : readUnsigned s ≠ none) (ha : a ∈ s) : NumeralChar a := by
  obtain ⟨-, hexponent⟩ := readUnsigned_ne_none_iff.mp hs
  rcases mem_takeDigits ha with ha | ha
  · exact Or.inl (isAlphanum_of_isDigit ha)
  · unfold takeFraction at hexponent
    split at hexponent
    · rename_i rest heq
      rw [heq] at ha
      rcases List.mem_cons.mp ha with rfl | ha
      · exact Or.inr (Or.inr (Or.inr rfl))
      · rcases mem_takeDigits ha with ha | ha
        · exact Or.inl (isAlphanum_of_isDigit ha)
        · exact numeralChar_of_readExponent hexponent ha
    · exact numeralChar_of_readExponent hexponent ha

/-- The words that are read as magnitudes. -/
def magnitudeWords : List (List Char) :=
  [['i', 'n', 'f'], ['i', 'n', 'f', 'i', 'n', 'i', 't', 'y'], ['n', 'a', 'n']]

/-- A magnitude is written by an unsigned numeral or by a word. -/
lemma readMagnitude_ne_none_iff :
    readMagnitude s ≠ none ↔ s.map Char.toLower ∈ magnitudeWords ∨ readUnsigned s ≠ none := by
  unfold readMagnitude
  split
  · rename_i h
    simp [h, magnitudeWords]
  · rename_i h
    simp [h, magnitudeWords]
  · rename_i h
    simp [h, magnitudeWords]
  · rename_i hinf hinfinity hnan
    have hwords : s.map Char.toLower ∉ magnitudeWords := by
      simp only [magnitudeWords, List.mem_cons, List.not_mem_nil, or_false, not_or]
      exact ⟨hinf, hinfinity, hnan⟩
    simp [hwords]

/-- The words consist of letters. -/
lemma isAlpha_of_mem_word (hs : s.map Char.toLower ∈ magnitudeWords) (ha : a ∈ s) :
    a.isAlpha = true := by
  have hletters : ∀ word ∈ magnitudeWords, ∀ b ∈ word, b.isAlpha = true := by
    simp [magnitudeWords, Char.isAlpha, Char.isUpper, Char.isLower]
  rw [← Char.isAlpha_toLower_eq_isAlpha]
  exact hletters _ hs _ (List.mem_map_of_mem ha)

/-- A magnitude cannot be continued. -/
lemma readMagnitude_append (hs : readMagnitude s ≠ none) (hc : Breaks c) (rest : List Char) :
    readMagnitude (s ++ c :: rest) = none := by
  by_contra hne
  rcases readMagnitude_ne_none_iff.mp hne with hword | hunsigned
  · have halpha := isAlpha_of_mem_word hword
      (List.mem_append_right s (List.mem_cons_self : c ∈ c :: rest))
    rw [hc.not_alpha] at halpha
    cases halpha
  · rcases readMagnitude_ne_none_iff.mp hs with hword | hs
    · cases s with
      | nil => simp [magnitudeWords] at hword
      | cons a s =>
        have halpha : a.isAlpha = true := isAlpha_of_mem_word hword List.mem_cons_self
        refine hunsigned (readUnsigned_cons_eq_none ?_ ?_ _)
        · exact Text.not_isDigit_of_isAlpha halpha
        · rintro rfl
          revert halpha
          decide
    · exact hunsigned (readUnsigned_append hs hc rest)

/-- A magnitude ends with a letter, a digit or a point. -/
lemma readMagnitude_concat (hc : Breaks c) (s : List Char) : readMagnitude (s ++ [c]) = none := by
  by_contra hne
  rcases readMagnitude_ne_none_iff.mp hne with hword | hunsigned
  · have halpha := isAlpha_of_mem_word hword (List.mem_append_right s List.mem_cons_self)
    rw [hc.not_alpha] at halpha
    cases halpha
  · exact hunsigned (readUnsigned_concat hc s)

/-- The characters of a magnitude. -/
lemma numeralChar_of_readMagnitude (hs : readMagnitude s ≠ none) (ha : a ∈ s) :
    NumeralChar a := by
  rcases readMagnitude_ne_none_iff.mp hs with hword | hs
  · left
    rw [Char.isAlphanum, isAlpha_of_mem_word hword ha, Bool.true_or]
  · exact numeralChar_of_readUnsigned hs ha

/-! ## Numerals -/

/-- A numeral is a magnitude, perhaps with a sign in front. -/
lemma readFloat_ne_none_iff : readFloat s ≠ none ↔ readMagnitude (takeSign s).2 ≠ none := by
  simp [readFloat]

/-- The empty text is no numeral. -/
lemma readFloat_nil : readFloat [] = none := rfl

/-- A numeral cannot be continued. -/
lemma readFloat_append (hs : readFloat s ≠ none) (hc : Breaks c) (rest : List Char) :
    readFloat (s ++ c :: rest) = none := by
  have hne : s ≠ [] := by
    rintro rfl
    exact hs readFloat_nil
  by_contra h
  rw [← ne_eq, readFloat_ne_none_iff, takeSign_append hne] at h
  exact h (readMagnitude_append (readFloat_ne_none_iff.mp hs) hc rest)

/-- A numeral ends with a letter, a digit or a point. -/
lemma readFloat_concat (hc : Breaks c) (s : List Char) : readFloat (s ++ [c]) = none := by
  by_contra hne
  rw [← ne_eq, readFloat_ne_none_iff] at hne
  cases s with
  | nil =>
    rcases takeSign_singleton c with h | h
    · rw [List.nil_append, h] at hne
      exact hne rfl
    · rw [List.nil_append, h] at hne
      exact hne (readMagnitude_concat hc [])
  | cons a s =>
    rw [takeSign_append (List.cons_ne_nil a s)] at hne
    exact hne (readMagnitude_concat hc _)

/-- The characters of a numeral. -/
lemma numeralChar_of_readFloat (hs : readFloat s ≠ none) (ha : a ∈ s) : NumeralChar a := by
  rcases mem_takeSign ha with ha | ha | ha
  · exact numeralChar_of_readMagnitude (readFloat_ne_none_iff.mp hs) ha
  · exact Or.inr (Or.inl ha)
  · exact Or.inr (Or.inr (Or.inl ha))

/-- The digits of an integer. -/
lemma all_isDigit_of_readInt64 (hs : readInt64 s ≠ none) :
    (takeSign s).2 ≠ [] ∧ ∀ a ∈ (takeSign s).2, a.isDigit = true := by
  by_contra h
  have hbad : ((takeSign s).2.isEmpty || !(takeSign s).2.all Char.isDigit) = true := by
    rw [not_and_or] at h
    rcases h with h | h
    · simp [not_not.mp h]
    · simpa using Or.inr h
  exact hs (if_pos hbad)

/-- An integer is a numeral. -/
lemma readFloat_of_readInt64 (hs : readInt64 s ≠ none) : readFloat s ≠ none := by
  obtain ⟨hne, hdigits⟩ := all_isDigit_of_readInt64 hs
  rw [readFloat_ne_none_iff, readMagnitude_ne_none_iff]
  right
  have htake : takeDigits (takeSign s).2 = ((takeSign s).2, []) := by
    rw [takeDigits, List.takeWhile_eq_self_iff.mpr hdigits, List.dropWhile_eq_nil_iff.mpr hdigits]
  rw [readUnsigned_ne_none_iff, htake]
  exact ⟨Or.inl hne, by simp [takeFraction, readExponent]⟩

end Dataflow.Decimal
