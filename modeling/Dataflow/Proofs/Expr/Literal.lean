import Dataflow.Expr.Literal
import Dataflow.Proofs.Decimal.Numeral

/-!
# The extent of literals

What is read as a literal, and that a literal is not one any more when it is continued by an
operator: a number (`readNumber?_append`) and a quoted text (`unquote?_append`) end where they end.
-/

namespace Dataflow.Expr

open Decimal

variable {s rest : List Char} {a c q : Char} {v : Json}

/-! ## First characters

Words and paths, numbers, and quoted texts are told apart by their first characters. -/

/-- A letter starts neither a number nor a quoted text. -/
lemma of_isAlpha (ha : a.isAlpha = true) : startsNumeral a = false ∧ isQuote a = false := by
  have hne : ∀ d : Char, d.isAlpha = false → a ≠ d := by
    rintro d hd rfl
    rw [ha] at hd
    cases hd
  simp [startsNumeral, isQuote, Text.not_isDigit_of_isAlpha ha, hne '-' (by decide),
    hne '+' (by decide), hne '.' (by decide), hne '"' (by decide), hne '\'' (by decide)]

/-- A quotation mark starts neither a word nor a number. -/
lemma of_isQuote (ha : isQuote a = true) : a.isAlpha = false ∧ startsNumeral a = false := by
  simp only [isQuote, Bool.or_eq_true, beq_iff_eq] at ha
  rcases ha with rfl | rfl
  · decide
  · decide

/-- What starts a number starts neither a word nor a quoted text. -/
lemma of_startsNumeral (ha : startsNumeral a = true) : a.isAlpha = false ∧ isQuote a = false := by
  rw [← Bool.not_eq_true, ← Bool.not_eq_true]
  constructor
  · intro halpha
    rw [(of_isAlpha halpha).1] at ha
    cases ha
  · intro hquote
    rw [(of_isQuote hquote).2] at ha
    cases ha

/-! ## Numbers -/

/-- A number is a numeral that starts like one. -/
lemma of_readNumber? (h : readNumber? s = some v) :
    readFloat s ≠ none ∧ ∃ a t, s = a :: t ∧ startsNumeral a = true := by
  cases s with
  | nil => cases h
  | cons a t =>
    rw [readNumber?] at h
    split at h
    · rename_i hstart
      refine ⟨fun hnone => ?_, a, t, rfl, hstart⟩
      have hint : readInt64 (a :: t) = none := by
        by_contra hint
        exact readFloat_of_readInt64 hint hnone
      rw [hint] at h
      simp [readFiniteFloat, hnone] at h
    · cases h

/-- A text that starts with a character that numerals do not start with is no number. -/
lemma readNumber?_cons_eq_none (ha : startsNumeral a = false) (s : List Char) :
    readNumber? (a :: s) = none := by
  rw [readNumber?, if_neg (by simp [ha])]

/-- A text that is no numeral is no number. -/
lemma readNumber?_eq_none (hfloat : readFloat s = none) : readNumber? s = none := by
  by_contra hne
  obtain ⟨v, hv⟩ := Option.ne_none_iff_exists'.mp hne
  exact (of_readNumber? hv).1 hfloat

/-- A numeral that is no integer of 64 bits is a double. -/
lemma readNumber?_of_readFiniteFloat {x : Float} (ha : startsNumeral a = true)
    (hint : readInt64 (a :: s) = none) (hfloat : readFiniteFloat (a :: s) = some x)
    (hfinite : x.isFinite = true) : readNumber? (a :: s) = some (.number (.float x hfinite)) := by
  rw [readNumber?, if_pos ha, hint, hfloat]
  simp [Number.ofFloat?, hfinite]

/-- A number cannot be continued. -/
lemma readNumber?_append (h : readNumber? s = some v) (hc : Breaks c) (rest : List Char) :
    readNumber? (s ++ c :: rest) = none :=
  readNumber?_eq_none (readFloat_append (of_readNumber? h).1 hc rest)

/-- A hyphen alone is no number. -/
lemma ne_hyphen_of_readNumber? (h : readNumber? s = some v) : s ≠ ['-'] := by
  rintro rfl
  exact (of_readNumber? h).1 rfl

/-- The characters of a number. -/
lemma numeralChar_of_readNumber? (h : readNumber? s = some v) (ha : a ∈ s) : NumeralChar a :=
  numeralChar_of_readFloat (of_readNumber? h).1 ha

/-! ## Quoted texts -/

/-- A quotation mark, a text without it, and the mark again are a literal. -/
lemma unquote?_quoted (hq : isQuote q = true) (hs : q ∉ s) :
    unquote? (q :: (s ++ [q])) = some s := by
  simp [unquote?, hq, hs]

/-- Nothing else is a quoted text. -/
lemma of_unquote? {inner : List Char} (h : unquote? s = some inner) :
    ∃ q, isQuote q = true ∧ q ∉ inner ∧ s = q :: (inner ++ [q]) := by
  unfold unquote? at h
  split at h
  · rename_i q rest
    split at h
    · rename_i hq
      split at h
      · rename_i last hlast
        simp only at h
        split at h
        · rename_i hends
          obtain rfl := Option.some.inj h
          simp only [Bool.and_eq_true, beq_iff_eq, Bool.not_eq_true', List.contains_eq_mem,
            decide_eq_false_iff_not] at hends
          have hne : rest ≠ [] := by
            rintro rfl
            cases hlast
          refine ⟨q, hq, hends.2, ?_⟩
          rw [List.getLast?_eq_some_getLast hne] at hlast
          rw [← hends.1, ← Option.some.inj hlast, List.dropLast_concat_getLast hne]
        · cases h
      · cases h
    · cases h
  · cases h

/-- A quoted text cannot be continued, not even up to the same quotation mark. -/
lemma unquote?_append (s : List Char) (hrest : rest ≠ []) :
    unquote? (q :: (s ++ q :: rest)) = none := by
  rw [unquote?]
  split
  · split
    · rename_i last _
      rw [if_neg]
      simp [List.dropLast_append_of_ne_nil, List.dropLast_cons_of_ne_nil hrest]
    · rfl
  · rfl

/-- A text that does not start with a quotation mark is not quoted. -/
lemma unquote?_cons_eq_none (ha : isQuote a = false) (s : List Char) :
    unquote? (a :: s) = none := by
  rw [unquote?, if_neg (by simp [ha])]

/-! ## Literals -/

/-- The words that are literals. -/
def words : List (List Char) := ["true".toList, "false".toList, "null".toList]

/-- The words consist of letters. -/
lemma isAlpha_of_mem_words (hs : s ∈ words) (ha : a ∈ s) : a.isAlpha = true := by
  have hletters : ∀ word ∈ words, ∀ b ∈ word, b.isAlpha = true := by
    simp [words, Char.isAlpha, Char.isUpper, Char.isLower]
  exact hletters s hs a ha

/-- A text that does not start with a letter is no word. -/
lemma cons_not_mem_words (ha : a.isAlpha = false) (s : List Char) : a :: s ∉ words := by
  intro hwords
  rw [isAlpha_of_mem_words hwords List.mem_cons_self] at ha
  cases ha

/-- A quoted text is a literal. -/
lemma literal?_of_unquote? {inner : List Char} (hs : s ∉ words)
    (hquoted : unquote? s = some inner) : literal? s = some (.string (String.ofList inner)) := by
  simp only [words, List.mem_cons, List.not_mem_nil, or_false, not_or] at hs
  simp only [literal?, if_neg hs.1, if_neg hs.2.1, if_neg hs.2.2, hquoted]

/-- A text that is neither a word nor quoted is a literal if it is a number. -/
lemma literal?_of_not_quoted (hs : s ∉ words) (hquoted : unquote? s = none) :
    literal? s = readNumber? s := by
  simp only [words, List.mem_cons, List.not_mem_nil, or_false, not_or] at hs
  simp only [literal?, if_neg hs.1, if_neg hs.2.1, if_neg hs.2.2, hquoted]

/-- What is neither a word nor quoted nor a number is no literal. -/
lemma literal?_eq_none (hs : s ∉ words) (hquoted : unquote? s = none)
    (hnumber : readNumber? s = none) : literal? s = none := by
  rw [literal?_of_not_quoted hs hquoted, hnumber]

/-- A number is a literal. -/
lemma literal?_of_readNumber? (h : readNumber? s = some v) : literal? s = some v := by
  obtain ⟨-, a, t, rfl, hstart⟩ := of_readNumber? h
  obtain ⟨hletter, hquote⟩ := of_startsNumeral hstart
  rw [literal?_of_not_quoted (cons_not_mem_words hletter t) (unquote?_cons_eq_none hquote t), h]

/-- A literal is a quoted text or consists of the characters of numbers. -/
lemma literal_cases (h : literal? s = some v) : (s ≠ [] ∧ ∀ c ∈ s, NumeralChar c) ∨
    ∃ q inner, isQuote q = true ∧ q ∉ inner ∧ s = q :: (inner ++ [q]) := by
  by_cases hwords : s ∈ words
  · refine Or.inl ⟨?_, fun c hc => Or.inl ?_⟩
    · rintro rfl
      simp [words] at hwords
    · rw [Char.isAlphanum, isAlpha_of_mem_words hwords hc, Bool.true_or]
  · cases hquoted : unquote? s with
    | some inner =>
      obtain ⟨q, hq⟩ := of_unquote? hquoted
      exact Or.inr ⟨q, inner, hq⟩
    | none =>
      rw [literal?_of_not_quoted hwords hquoted] at h
      obtain ⟨-, a, t, rfl, -⟩ := of_readNumber? h
      exact Or.inl ⟨List.cons_ne_nil a t, fun c hc => numeralChar_of_readNumber? h hc⟩

/-- A number with a blank or an operator behind it is no literal. -/
lemma literal?_append_of_readNumber? (h : readNumber? s = some v) (hc : Breaks c)
    (rest : List Char) : literal? (s ++ c :: rest) = none := by
  obtain ⟨-, a, t, rfl, hstart⟩ := of_readNumber? h
  obtain ⟨hletter, hquote⟩ := of_startsNumeral hstart
  exact literal?_eq_none (cons_not_mem_words hletter _) (unquote?_cons_eq_none hquote _)
    (readNumber?_append h hc rest)

/-- A text that starts with a letter and is no word is no literal. -/
lemma literal?_cons_eq_none (ha : a.isAlpha = true) (hs : a :: s ∉ words) :
    literal? (a :: s) = none :=
  literal?_eq_none hs (unquote?_cons_eq_none (of_isAlpha ha).2 s)
    (readNumber?_cons_eq_none (of_isAlpha ha).1 s)

end Dataflow.Expr
