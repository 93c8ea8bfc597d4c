import Dataflow.Expr.Eval
import Dataflow.Proofs.Expr.Literal
import Dataflow.Proofs.Expr.Scan
import Dataflow.Proofs.Text.Trimming

/-!
# Trees of expressions and their texts

The documented language of expressions: trees of operators over operands that need no parentheses
(`Tree.Grouped`), their values (`Tree.value`), and the texts that are written for them, with any
number of spaces around an operator (`Tree.Written`). A minus sign needs a space on each side.

An operand is written without blanks at its ends (`OperandText.framed`), and no operator of any
level cuts it (`OperandText.cuts_append`).
-/

namespace Dataflow.Expr

open Decimal

/-! ## Operands -/

/-- The characters of names and numbers. -/
def isPlain (c : Char) : Bool := c.isAlphanum || c == '_' || c == '-' || c == '.'

/-- Characters of names and indices in brackets, in any order. -/
inductive PlainText : List Char → Prop
  | nil : PlainText []
  | char {c : Char} {s : List Char} (hc : isPlain c = true) (hs : PlainText s) : PlainText (c :: s)
  | index {digits s : List Char} (hdigits : ∀ c ∈ digits, c.isDigit = true) (hs : PlainText s) :
      PlainText ('[' :: (digits ++ ']' :: s))

/-- An operand: a word, a text in quotation marks that does not contain them, a number without a
plus sign, or a path. -/
inductive Atom where
  | truth (b : Bool)
  | null
  | quoted (mark : Char) (inner : List Char) (hmark : isQuote mark = true)
      (hinner : mark ∉ inner)
  | number (text : List Char) (v : Json) (hv : readNumber? text = some v) (hplus : '+' ∉ text)
  | path (first : Char) (tail : List Char) (hfirst : first.isAlpha = true)
      (htail : PlainText tail) (hwords : first :: tail ∉ words)

/-- How an operand is written. -/
def Atom.text : Atom → List Char
  | .truth true => "true".toList
  | .truth false => "false".toList
  | .null => "null".toList
  | .quoted mark inner _ _ => mark :: (inner ++ [mark])
  | .number text _ _ _ => text
  | .path first tail _ _ _ => first :: tail

/-- The value of an operand. A path that leads nowhere stands for itself when it is the whole
expression, and for `null` otherwise. -/
def Atom.value (context : Fields) (whole : Bool) : Atom → Json
  | .truth b => .bool b
  | .null => .null
  | .quoted _ inner _ _ => .string (String.ofList inner)
  | .number _ v _ _ => v
  | .path first tail _ _ _ => (Fields.at? context (first :: tail)).getD
      (if whole then .string (String.ofList (first :: tail)) else .null)

/-! ## Trees -/

/-- An operand, or an operator on two trees. -/
inductive Tree where
  | atom (a : Atom)
  | node (op : Operator) (left right : Tree)

/-- How tightly the operators of a level bind. -/
def Level.rank : Level → ℕ
  | .disjunction => 0
  | .conjunction => 1
  | .comparison => 2
  | .additive => 3
  | .multiplicative => 4

/-- What may stand beside an operator without parentheses, by the ranks of the two sides:
comparisons group to the right, arithmetic to the left, and the logical operators in any way. -/
def Level.Groups (level : Level) (left right : ℕ) : Prop :=
  match level with
  | .disjunction | .conjunction => level.rank ≤ left ∧ level.rank ≤ right
  | .comparison => level.rank < left ∧ level.rank ≤ right
  | .additive | .multiplicative => level.rank ≤ left ∧ level.rank < right

namespace Tree

/-- How tightly the outermost operator binds; operands are tighter than all operators. -/
def rank : Tree → ℕ
  | atom _ => 5
  | node op _ _ => op.level.rank

/-- Trees that are written without parentheses. -/
def Grouped : Tree → Prop
  | atom _ => True
  | node op l r => l.Grouped ∧ r.Grouped ∧ op.level.Groups l.rank r.rank

/-- The value of a tree, from its operands up. -/
def value (context : Fields) (whole : Bool) : Tree → Json
  | atom a => a.value context whole
  | node op l r => op.apply (l.value context false) (r.value context false)

end Tree

/-- A number of spaces. -/
def blanks (n : ℕ) : List Char := List.replicate n ' '

/-- The texts that are written for a tree. -/
inductive Tree.Written : Tree → List Char → Prop
  | atom (a : Atom) : Written (.atom a) a.text
  | node {op : Operator} {l r : Tree} {s t : List Char} (before after : ℕ) (hl : Written l s)
      (hr : Written r t) (hblanks : op = .sub → 0 < before ∧ 0 < after) :
      Written (.node op l r) (s ++ blanks before ++ op.symbol ++ blanks after ++ t)

/-! ## Plain texts -/

section Plain

variable {level : Level} {c : Char} {s before rest : List Char}

/-- A plain character is not blank. -/
lemma not_isBlank_of_isPlain (hc : isPlain c = true) : Text.isBlank c = false := by
  simp only [isPlain, Bool.or_eq_true, beq_iff_eq] at hc
  rcases hc with ((h | rfl) | rfl) | rfl
  · rw [Text.isAlphanum_iff] at h
    simp only [Text.isBlank, Bool.or_eq_false_iff, Bool.and_eq_false_iff, decide_eq_false_iff_not,
      beq_eq_false_iff_ne]
    omega
  · decide
  · decide
  · decide

/-- A plain character is none of the others. -/
lemma ne_of_isPlain (hc : isPlain c = true) {d : Char} (hd : isPlain d = false) : c ≠ d := by
  rintro rfl
  rw [hc] at hd
  cases hd

/-- A plain character is not an ASCII blank. -/
lemma not_isAsciiBlank_of_isPlain (hc : isPlain c = true) : Text.isAsciiBlank c = false :=
  Text.not_isAsciiBlank_of_not_isBlank (not_isBlank_of_isPlain hc)

/-- A plain character means nothing at any level, unless it is a hyphen. -/
lemma idle_of_isPlain (hc : isPlain c = true) (hhyphen : c ≠ '-') (level : Level) :
    Idle level c where
  not_quote := by
    have hdouble : c ≠ '"' := ne_of_isPlain hc (by decide)
    have hsingle : c ≠ '\'' := ne_of_isPlain hc (by decide)
    simp [isQuote, hdouble, hsingle]
  ne_open := ne_of_isPlain hc (by decide)
  ne_close := ne_of_isPlain hc (by decide)
  not_starts := by
    refine starts_eq_false (fun hmem => ?_) level
    have hother : ∀ d ∈ symbolChars, d = '-' ∨ isPlain d = false := by
      simp [symbolChars, isPlain, Char.isAlphanum, Char.isAlpha, Char.isUpper, Char.isLower,
        Char.isDigit]
    rcases hother c hmem with h | h
    · exact hhyphen h
    · exact ne_of_isPlain hc h rfl

/-- A letter is plain. -/
lemma isPlain_of_isAlpha (hc : c.isAlpha = true) : isPlain c = true := by
  simp [isPlain, Char.isAlphanum, hc]

/-- A character of a number is a plus sign or plain. -/
lemma isPlain_of_numeralChar (hc : NumeralChar c) : c = '+' ∨ isPlain c = true := by
  rcases hc with h | rfl | rfl | rfl
  · exact .inr (by simp [isPlain, h])
  · exact .inr rfl
  · exact .inl rfl
  · exact .inr rfl

/-- A character of a number is not blank. -/
lemma not_isBlank_of_numeralChar (hc : NumeralChar c) : Text.isBlank c = false := by
  rcases isPlain_of_numeralChar hc with rfl | hplain
  · rfl
  · exact not_isBlank_of_isPlain hplain

/-- A character of a number is neither a quotation mark nor a bracket. -/
lemma not_quote_of_numeralChar (hc : NumeralChar c) : isQuote c = false ∧ c ≠ '[' ∧ c ≠ ']' := by
  rcases isPlain_of_numeralChar hc with rfl | hplain
  · decide
  · refine ⟨?_, ne_of_isPlain hplain rfl, ne_of_isPlain hplain rfl⟩
    have hdouble : c ≠ '"' := ne_of_isPlain hplain (by decide)
    have hsingle : c ≠ '\'' := ne_of_isPlain hplain (by decide)
    simp [isQuote, hdouble, hsingle]

/-- Only the additive operators are written with characters of numbers. -/
lemma idle_of_numeralChar (hc : NumeralChar c) (hlevel : level ≠ .additive) : Idle level c := by
  by_cases hsign : c = '+' ∨ c = '-'
  · have hstarts : level.starts '+' = false ∧ level.starts '-' = false := by
      cases level with
      | additive => exact absurd rfl hlevel
      | disjunction | conjunction | comparison | multiplicative => decide
    rcases hsign with rfl | rfl
    · exact ⟨rfl, by decide, by decide, hstarts.1⟩
    · exact ⟨rfl, by decide, by decide, hstarts.2⟩
  · rw [not_or] at hsign
    exact idle_of_isPlain ((isPlain_of_numeralChar hc).resolve_left hsign.1) hsign.2 level

/-- A plain text behind a character that is not blank is passed over: each hyphen in it has a
neighbour that is not blank. -/
lemma cuts_plain {b : Char} (hb : Text.isAsciiBlank b = false) (hs : PlainText s) :
    cuts level.operators none 0 (b :: before) (s ++ rest) =
      cuts level.operators none 0 (s.reverse ++ b :: before) rest := by
  induction hs generalizing b before with
  | nil => rfl
  | @char c s hc hs ih =>
    have hstep : cuts level.operators none 0 (b :: before) (c :: (s ++ rest)) =
        cuts level.operators none 0 (c :: b :: before) (s ++ rest) := by
      by_cases hhyphen : c = '-'
      · subst hhyphen
        refine cuts_hyphen ?_
        cases s ++ rest with
        | nil => rfl
        | cons a after => simp [hasRoom, Operator.needsBlanks, hb]
      · exact cuts_idle (s := [c]) (by simpa using idle_of_isPlain hc hhyphen level)
    rw [List.cons_append, hstep, ih (not_isAsciiBlank_of_isPlain hc)]
    simp
  | @index digits s hdigits hs ih =>
    simp only [List.cons_append, List.append_assoc]
    rw [cuts_index hdigits, ih (by decide)]
    simp

end Plain

/-! ## Framed texts -/

section Framed

variable {s t m : List Char}

/-- A text without blanks at its ends; it does not start with an equals sign, either, which could be
taken for a part of an operator in front of it. -/
structure Framed (s : List Char) : Prop where
  first : ∃ c t, s = c :: t ∧ Text.isBlank c = false ∧ c ≠ '='
  last : ∃ t d, s = t ++ [d] ∧ Text.isBlank d = false

lemma Framed.tight (hs : Framed s) : Text.Tight s where
  first := by
    obtain ⟨c, t, rfl, hc, -⟩ := hs.first
    exact ⟨c, t, rfl, hc⟩
  last := hs.last

lemma Framed.ne_nil (hs : Framed s) : s ≠ [] :=
  hs.tight.ne_nil

/-- A text between two framed ones is framed by them. -/
lemma Framed.append (hs : Framed s) (ht : Framed t) (m : List Char) : Framed (s ++ m ++ t) where
  first := by
    obtain ⟨c, u, rfl, hc⟩ := hs.first
    exact ⟨c, u ++ m ++ t, by simp, hc⟩
  last := (hs.tight.append ht.tight m).last

/-- Spaces are blank. -/
lemma isBlank_of_mem_blanks {n : ℕ} {c : Char} (hc : c ∈ blanks n) : Text.isBlank c = true := by
  rw [List.eq_of_mem_replicate hc]
  rfl

/-- Trimming takes the spaces around a framed text away, and nothing else. -/
lemma trim_blanks (hs : Framed s) (before after : ℕ) :
    Text.trim (blanks before ++ s ++ blanks after) = s :=
  hs.tight.trim_between (fun _ => isBlank_of_mem_blanks) fun _ => isBlank_of_mem_blanks

end Framed

/-! ## Texts of operands -/

/-- The texts of operands: quoted texts, and plain ones, of which a hyphen is not the whole. -/
inductive OperandText : List Char → Prop
  | plain {c : Char} {s : List Char} (hc : isPlain c = true) (hs : PlainText s)
      (hhyphen : c = '-' → ∃ d t, s = d :: t ∧ Text.isAsciiBlank d = false) :
      OperandText (c :: s)
  | quoted {q : Char} {s : List Char} (hq : isQuote q = true) (hs : q ∉ s) :
      OperandText (q :: (s ++ [q]))

namespace OperandText

variable {level : Level} {s before rest : List Char}

/-- No operator cuts an operand. -/
lemma cuts_append (hs : OperandText s) :
    cuts level.operators none 0 before (s ++ rest) =
      cuts level.operators none 0 (s.reverse ++ before) rest := by
  cases hs with
  | @plain c s hc hs hhyphen =>
    have hstep : cuts level.operators none 0 before (c :: (s ++ rest)) =
        cuts level.operators none 0 (c :: before) (s ++ rest) := by
      by_cases hc' : c = '-'
      · obtain ⟨d, t, rfl, hd⟩ := hhyphen hc'
        subst hc'
        refine cuts_hyphen ?_
        cases before with
        | nil => rfl
        | cons b before => simp [hasRoom, Operator.needsBlanks, hd]
      · exact cuts_idle (s := [c]) (by simpa using idle_of_isPlain hc hc' level)
    rw [List.cons_append, hstep, cuts_plain (not_isAsciiBlank_of_isPlain hc) hs]
    simp
  | @quoted q s hq hs =>
    rw [List.cons_append, List.append_assoc, List.singleton_append, cuts_quoted hq hs]
    simp

/-- The last character of a plain text is not blank. -/
lemma last_of_plain {c : Char} (hc : Text.isBlank c = false) (hs : PlainText s) :
    ∃ t d, c :: s = t ++ [d] ∧ Text.isBlank d = false := by
  induction hs generalizing c with
  | nil => exact ⟨[], c, rfl, hc⟩
  | @char c' s hc' hs ih =>
    obtain ⟨t, d, heq, hd⟩ := ih (not_isBlank_of_isPlain hc')
    exact ⟨c :: t, d, by rw [heq, List.cons_append], hd⟩
  | @index digits s hdigits hs ih =>
    obtain ⟨t, d, heq, hd⟩ := ih (c := ']') (by decide)
    exact ⟨c :: '[' :: (digits ++ t), d, by simp [heq], hd⟩

/-- Operands are framed. -/
lemma framed (hs : OperandText s) : Framed s := by
  cases hs with
  | @plain c s hc hs hhyphen =>
    exact ⟨⟨c, s, rfl, not_isBlank_of_isPlain hc, ne_of_isPlain hc (by decide)⟩,
      last_of_plain (not_isBlank_of_isPlain hc) hs⟩
  | @quoted q s hq hs =>
    have hblank : Text.isBlank q = false ∧ q ≠ '=' := by
      simp only [isQuote, Bool.or_eq_true, beq_iff_eq] at hq
      rcases hq with rfl | rfl
      · decide
      · decide
    exact ⟨⟨q, s ++ [q], rfl, hblank⟩, ⟨q :: s, q, rfl, hblank.1⟩⟩

end OperandText

namespace Atom

variable {context : Fields} {c : Char}

/-- Plain characters are a plain text. -/
lemma plainText_of_forall {s : List Char} (hs : ∀ c ∈ s, isPlain c = true) : PlainText s := by
  induction s with
  | nil => exact .nil
  | cons c s ih =>
    obtain ⟨hc, hs⟩ := List.forall_mem_cons.mp hs
    exact .char hc (ih hs)

/-- The words are plain texts. -/
lemma operandText_of_mem_words {s : List Char} (hs : s ∈ words) : OperandText s := by
  cases s with
  | nil => simp [words] at hs
  | cons c s =>
    have hplain : ∀ d ∈ c :: s, isPlain d = true := fun d hd =>
      isPlain_of_isAlpha (isAlpha_of_mem_words hs hd)
    refine .plain (hplain c List.mem_cons_self)
      (plainText_of_forall fun d hd => hplain d (List.mem_cons_of_mem c hd)) ?_
    rintro rfl
    have hletter := isAlpha_of_mem_words hs List.mem_cons_self
    cases hletter

/-- An operand is written as one. -/
lemma operandText (a : Atom) : OperandText a.text := by
  cases a with
  | truth b =>
    cases b with
    | false => exact operandText_of_mem_words (by simp [words, text])
    | true => exact operandText_of_mem_words (by simp [words, text])
  | null => exact operandText_of_mem_words (by simp [words, text])
  | quoted mark inner hmark hinner => exact .quoted hmark hinner
  | number text v hv hplus =>
    have hplain : ∀ d ∈ text, isPlain d = true := fun d hd =>
      (isPlain_of_numeralChar (numeralChar_of_readNumber? hv hd)).resolve_left
        (ne_of_mem_of_not_mem hd hplus)
    obtain ⟨-, c, s, rfl, -⟩ := of_readNumber? hv
    obtain ⟨hc, hs⟩ := List.forall_mem_cons.mp hplain
    refine .plain hc (plainText_of_forall hs) ?_
    rintro rfl
    cases s with
    | nil => exact absurd rfl (ne_hyphen_of_readNumber? hv)
    | cons d t => exact ⟨d, t, rfl, not_isAsciiBlank_of_isPlain (hs d List.mem_cons_self)⟩
  | path first tail hfirst htail hwords =>
    refine .plain (isPlain_of_isAlpha hfirst) htail ?_
    rintro rfl
    cases hfirst

end Atom

end Dataflow.Expr
