import Dataflow.Proofs.Expr.Precedence
import Dataflow.Proofs.Text.Pieces

/-!
# Numbers beside operators

Two numbers with an arithmetic operator between them stand for the result of the operator on the
numbers, as long as no plus sign of a number is taken for an operator (`evaluate_numbers`). Hyphens
in numbers never are, for they have no blanks at both sides. A plus sign needs none: it is an
operator wherever something stands before it and behind it, so that the text is cut at the last plus
sign, in the middle of a number, unless the operator is cut first (`TearsNumber`). Then what stands
before the plus sign is evaluated by itself, and the sum is the value of the text.
-/

namespace Dataflow.Expr

open Decimal

variable {level : Level} {op : Operator} {a b s before rest : List Char} {c : Char} {x y : Json}

/-- The arithmetic operators. -/
def Operator.Arithmetic (op : Operator) : Prop :=
  op.level = .additive ∨ op.level = .multiplicative

/-! ## Numbers -/

/-- A number has no blanks at its ends. -/
lemma framed_of_readNumber? (ha : readNumber? a = some x) : Framed a := by
  obtain ⟨-, c, s, rfl, hstart⟩ := of_readNumber? ha
  have hblank : ∀ d ∈ c :: s, Text.isBlank d = false := fun d hd =>
    not_isBlank_of_numeralChar (numeralChar_of_readNumber? ha hd)
  refine ⟨⟨c, s, rfl, hblank c List.mem_cons_self, ?_⟩,
    (Text.tight_of_forall (List.cons_ne_nil c s) hblank).last⟩
  rintro rfl
  cases hstart

/-- A number does not end with a sign. -/
lemma not_ends_of_readNumber? (ha : readNumber? a = some x) (s : List Char) : a ≠ s ++ ['+'] := by
  rintro rfl
  exact (of_readNumber? ha).1 (readFloat_concat ⟨rfl, by decide⟩ s)

/-- The characters behind the last plus sign of a number are plain. -/
lemma isPlain_of_last_plus (ha : readNumber? (s ++ '+' :: rest) = some x) (hplus : '+' ∉ rest) :
    ∀ c ∈ rest, isPlain c = true := by
  intro c hc
  have hnumeral := numeralChar_of_readNumber? ha (by simp [hc] : c ∈ s ++ '+' :: rest)
  exact (isPlain_of_numeralChar hnumeral).resolve_left (ne_of_mem_of_not_mem hc hplus)

/-- A number stands for its value. -/
lemma eval_number (ha : readNumber? a = some x) (context : Fields) (whole : Bool) :
    eval context whole a = x :=
  eval_of_literal (framed_of_readNumber? ha).tight.trim_eq (literal?_of_readNumber? ha)

/-- Levels other than the additive one do not cut numbers. -/
lemma cuts_number (ha : readNumber? a = some x) (hlevel : level ≠ .additive) :
    cuts level.operators none 0 before (a ++ rest) =
      cuts level.operators none 0 (a.reverse ++ before) rest :=
  cuts_idle fun _ hc => idle_of_numeralChar (numeralChar_of_readNumber? ha hc) hlevel

/-- Plain characters behind one that is not blank are passed over. -/
lemma cuts_isPlain {d : Char} (hd : Text.isAsciiBlank d = false) (hs : ∀ c ∈ s, isPlain c = true) :
    cuts level.operators none 0 (d :: before) (s ++ rest) =
      cuts level.operators none 0 (s.reverse ++ d :: before) rest :=
  cuts_plain hd (Atom.plainText_of_forall hs)

/-- No level cuts a number without plus signs. -/
lemma cuts_number_of_not_mem (ha : readNumber? a = some x) (hplus : '+' ∉ a) :
    cuts level.operators none 0 before (a ++ rest) =
      cuts level.operators none 0 (a.reverse ++ before) rest :=
  (Atom.number a x ha hplus).operandText.cuts_append

/-- An expression is cut at a plus sign wherever something stands before the sign and behind it. -/
lemma cuts_plus (before rest : List Char) :
    cuts Level.additive.operators none 0 before ('+' :: rest) =
      (if hasRoom .add before rest then [⟨before.reverse, .add, rest⟩] else []) ++
        cuts Level.additive.operators none 0 ('+' :: before) rest :=
  cuts_operator .add before nofun

/-- A plus sign at the start of an expression does not cut it. -/
lemma cuts_number_of_not_mem_tail (ha : readNumber? a = some x) (hplus : '+' ∉ a.tail) :
    cuts level.operators none 0 [] (a ++ rest) = cuts level.operators none 0 a.reverse rest := by
  obtain ⟨-, c, s, rfl, -⟩ := of_readNumber? ha
  rw [List.tail_cons] at hplus
  by_cases hc : c = '+'
  · subst hc
    have hplain := isPlain_of_last_plus (s := []) ha hplus
    have hsign : cuts level.operators none 0 [] ('+' :: (s ++ rest)) =
        cuts level.operators none 0 ['+'] (s ++ rest) := by
      by_cases hlevel : level = .additive
      · subst hlevel
        exact cuts_plus [] (s ++ rest)
      · exact cuts_idle (s := ['+']) (by simpa using idle_of_numeralChar (.inr (.inr (.inl rfl))) hlevel)
    rw [List.cons_append, hsign, cuts_isPlain (by decide) hplain, List.reverse_cons]
  · have hnone : '+' ∉ c :: s := by simp [Ne.symm hc, hplus]
    have hcuts : cuts level.operators none 0 [] (c :: s ++ rest) = _ :=
      cuts_number_of_not_mem ha hnone
    simpa using hcuts

/-! ## An operator between two numbers -/

/-- Two texts with an operator between them, which has a space on each side. -/
def spaced (a : List Char) (op : Operator) (b : List Char) : List Char :=
  a ++ ' ' :: (op.symbol ++ ' ' :: b)

/-- A plus sign of a number binds more loosely than the operator between the numbers, or as loosely
and stands behind it. -/
def TearsNumber (a : List Char) (op : Operator) (b : List Char) : Prop :=
  '+' ∈ b ∨ (op.level = .multiplicative ∧ '+' ∈ a.tail)

/-- A space is passed over. -/
lemma cuts_space : cuts level.operators none 0 before (' ' :: rest) =
    cuts level.operators none 0 (' ' :: before) rest :=
  cuts_idle (s := [' ']) (by simpa using idle_of_mem_blanks (n := 1) (c := ' ') (by simp [blanks]))

/-- An operator of another level is passed over. -/
lemma cuts_operator_of_level_ne (hlevel : op.level ≠ level) :
    cuts level.operators none 0 before (' ' :: (op.symbol ++ ' ' :: rest)) =
      cuts level.operators none 0 (' ' :: (op.symbol.reverse ++ ' ' :: before)) rest := by
  rw [cuts_space, cuts_idle fun c hc => idle_of_mem_symbol hlevel hc, cuts_space]

/-- An operator between spaces makes a cut. -/
lemma cuts_operator_between_spaces (op : Operator) (before rest : List Char) :
    cuts op.level.operators none 0 before (' ' :: (op.symbol ++ ' ' :: rest)) =
      ⟨before.reverse ++ [' '], op, ' ' :: rest⟩ ::
        cuts op.level.operators none 0 (' ' :: (op.symbol.reverse ++ ' ' :: before)) rest := by
  have hroom : hasRoom op (' ' :: before) (' ' :: rest) = true := by
    simp [hasRoom, Text.isAsciiBlank]
  rw [cuts_space, cuts_operator op _ fun _ => by simp, hroom, if_pos rfl, cuts_space]
  simp

/-- An expression without quotation marks and brackets has the cuts of what stands in front, and
then those behind it. -/
lemma exists_cuts_append (hs : ∀ c ∈ s, isQuote c = false ∧ c ≠ '[' ∧ c ≠ ']') :
    ∃ cs, cuts Level.additive.operators none 0 before (s ++ rest) =
      cs ++ cuts Level.additive.operators none 0 (s.reverse ++ before) rest := by
  induction s generalizing before with
  | nil => exact ⟨[], rfl⟩
  | cons c s ih =>
    obtain ⟨⟨hquote, hopen, hclose⟩, hs⟩ := List.forall_mem_cons.mp hs
    obtain ⟨first, hfirst⟩ : ∃ first, cuts Level.additive.operators none 0 before (c :: (s ++ rest)) =
        first ++ cuts Level.additive.operators none 0 (c :: before) (s ++ rest) := by
      by_cases hplus : c = '+'
      · subst hplus
        exact ⟨_, cuts_plus before (s ++ rest)⟩
      by_cases hminus : c = '-'
      · subst hminus
        exact ⟨_, cuts_operator .sub before nofun⟩
      · have hidle : Idle .additive c :=
          ⟨hquote, hopen, hclose, by simp [Level.starts, Level.operators, Operator.symbol,
            Ne.symm hplus, Ne.symm hminus]⟩
        exact ⟨[], cuts_idle (s := [c]) (by simpa using hidle)⟩
    obtain ⟨more, hmore⟩ : ∃ more, cuts Level.additive.operators none 0 (c :: before) (s ++ rest) =
        more ++ _ := ih hs
    refine ⟨first ++ more, ?_⟩
    rw [List.cons_append, hfirst, hmore]
    simp

/-- Behind the operator, the second number is not cut if it has no plus sign. -/
lemma cuts_spaced_append (op : Operator) (hb : readNumber? b = some y) (hplus : '+' ∉ b) :
    cuts op.level.operators none 0 before (' ' :: (op.symbol ++ ' ' :: b)) =
      [⟨before.reverse ++ [' '], op, ' ' :: b⟩] := by
  rw [cuts_operator_between_spaces, ← List.append_nil b, cuts_number_of_not_mem hb hplus, cuts]

/-- The text with the numbers is no literal. -/
lemma literal?_spaced (ha : readNumber? a = some x) (op : Operator) (b : List Char) :
    literal? (spaced a op b) = none :=
  literal?_append_of_readNumber? ha ⟨rfl, by decide⟩ _

section Pair

variable (ha : readNumber? a = some x) (hb : readNumber? b = some y)

include ha hb

/-- The text with the numbers has no blanks at its ends. -/
lemma tight_spaced (op : Operator) : Text.Tight (spaced a op b) := by
  have h := (framed_of_readNumber? ha).tight.append (framed_of_readNumber? hb).tight
    (' ' :: (op.symbol ++ [' ']))
  simpa [spaced] using h

/-- Levels other than those of the operator and of the signs do not cut the text. -/
lemma cuts_spaced_eq_nil (hop : op.level ≠ level) (hlevel : level ≠ .additive) :
    cuts level.operators none 0 [] (spaced a op b) = [] := by
  rw [spaced, cuts_number ha hlevel, cuts_operator_of_level_ne hop, ← List.append_nil b,
    cuts_number hb hlevel, cuts]

/-- The last cut at the level of the operator is at the operator unless that tears a number. -/
lemma exists_cuts_spaced (hop : op.Arithmetic) (hplus : '+' ∉ b) :
    ∃ cs, cuts op.level.operators none 0 [] (spaced a op b) =
      cs ++ [⟨a ++ [' '], op, ' ' :: b⟩] := by
  rw [spaced]
  rcases hop with hlevel | hlevel
  · obtain ⟨cs, hcs⟩ : ∃ cs, cuts Level.additive.operators none 0 []
        (a ++ ' ' :: (op.symbol ++ ' ' :: b)) = cs ++ _ :=
      exists_cuts_append fun c hc => not_quote_of_numeralChar (numeralChar_of_readNumber? ha hc)
    rw [← hlevel, cuts_spaced_append op hb hplus] at hcs
    exact ⟨cs, by simpa using hcs⟩
  · refine ⟨[], ?_⟩
    have hne : op.level ≠ .additive := by simp [hlevel]
    rw [cuts_number ha hne, cuts_spaced_append op hb hplus]
    simp

/-- The text is cut at the operator unless that tears a number. -/
lemma split?_spaced (hop : op.Arithmetic) (hwhole : ¬ TearsNumber a op b) :
    split? (spaced a op b) = some ⟨a, op, b⟩ := by
  obtain ⟨hb_plus, ha_plus⟩ := not_or.mp hwhole
  have ha_framed := framed_of_readNumber? ha
  have hb_framed := framed_of_readNumber? hb
  have htrim : Cut.trim? ⟨a ++ [' '], op, ' ' :: b⟩ = some ⟨a, op, b⟩ := by
    have hleft : Text.trim (a ++ [' ']) = a := trim_blanks ha_framed 0 1
    have hright : Text.trim (' ' :: b) = b := by simpa [blanks] using trim_blanks hb_framed 1 0
    simp [Cut.trim?, hleft, hright, ha_framed.ne_nil, hb_framed.ne_nil]
  have hcut : splitAt? op.level (spaced a op b) = some ⟨a, op, b⟩ := by
    have hside : op.level.outermost = .rightmost := by
      rcases hop with h | h <;> rw [h] <;> rfl
    obtain ⟨cs, hcs⟩ := exists_cuts_spaced ha hb hop hb_plus
    rw [splitAt?, hcs, hside, Side.pick, List.getLast?_concat, Option.bind_some, htrim]
  refine split?_of_splitAt? (fun level hlooser => splitAt?_of_cuts_eq_nil ?_) hcut
  have hne : op.level ≠ level := by
    rintro rfl
    exact lt_irrefl _ hlooser
  by_cases hlevel : level = .additive
  · -- the operator multiplies or divides, so that the first number may not be torn, either
    subst hlevel
    have htail : '+' ∉ a.tail := fun hmem => ha_plus ⟨hop.resolve_left hne, hmem⟩
    rw [spaced, cuts_number_of_not_mem_tail ha htail, cuts_operator_of_level_ne hne,
      ← List.append_nil b, cuts_number_of_not_mem hb hb_plus, cuts]
  · exact cuts_spaced_eq_nil ha hb hne hlevel

/-- The characters of the text are neither quotation marks nor brackets. -/
lemma not_quote_of_mem_spaced (hc : c ∈ spaced a op b) :
    isQuote c = false ∧ c ≠ '[' ∧ c ≠ ']' := by
  simp only [spaced, List.mem_append, List.mem_cons] at hc
  rcases hc with hc | rfl | hc | rfl | hc
  · exact not_quote_of_numeralChar (numeralChar_of_readNumber? ha hc)
  · decide
  · exact not_quote_of_mem_symbol hc
  · decide
  · exact not_quote_of_numeralChar (numeralChar_of_readNumber? hb hc)

end Pair

/-! ## The last plus sign -/

section LastPlus

variable {l r : List Char}

/-- A text is cut at its last plus sign if no additive operator is behind it and none that binds
more loosely is in it. -/
lemma split?_last_plus (hlooser : ∀ level : Level, level.rank < Level.additive.rank →
      cuts level.operators none 0 [] (l ++ '+' :: r) = [])
    (hl : ∀ c ∈ l, isQuote c = false ∧ c ≠ '[' ∧ c ≠ ']')
    (hr : cuts Level.additive.operators none 0 ('+' :: l.reverse) r = [])
    (hleft : ∃ c ∈ l, Text.isBlank c = false) (hright : ∃ c ∈ r, Text.isBlank c = false) :
    split? (l ++ '+' :: r) = some ⟨Text.trim l, .add, Text.trim r⟩ := by
  have htrim : Cut.trim? ⟨l, .add, r⟩ = some ⟨Text.trim l, .add, Text.trim r⟩ := by
    simp [Cut.trim?, Text.trim_ne_nil hleft, Text.trim_ne_nil hright]
  have hroom : hasRoom .add l.reverse r = true := by
    obtain ⟨c, hc, -⟩ := hleft
    obtain ⟨d, hd, -⟩ := hright
    obtain ⟨b, before, hbefore⟩ := List.exists_cons_of_ne_nil
      (List.reverse_ne_nil_iff.mpr (List.ne_nil_of_mem hc))
    obtain ⟨a, after, hafter⟩ := List.exists_cons_of_ne_nil (List.ne_nil_of_mem hd)
    rw [hbefore, hafter]
    rfl
  have hlast : cuts Level.additive.operators none 0 (l.reverse ++ []) ('+' :: r) =
      [⟨l, .add, r⟩] := by
    rw [List.append_nil, cuts_plus, hroom, if_pos rfl, List.reverse_reverse, hr, List.append_nil]
  obtain ⟨cs, hcs⟩ : ∃ cs, cuts Level.additive.operators none 0 [] (l ++ '+' :: r) = cs ++ _ :=
    exists_cuts_append hl
  have hcut : splitAt? .additive (l ++ '+' :: r) = some ⟨Text.trim l, .add, Text.trim r⟩ := by
    rw [splitAt?, hcs, hlast, Level.outermost, Side.pick, List.getLast?_concat]
    exact htrim
  exact split?_of_splitAt? (fun level hlt => splitAt?_of_cuts_eq_nil (hlooser level hlt)) hcut

/-- The last plus sign in the text with the numbers, if it tears a number: behind it there are no
additive operators. -/
lemma exists_last_plus (ha : readNumber? a = some x) (hb : readNumber? b = some y)
    (htorn : TearsNumber a op b) :
    ∃ l r, spaced a op b = l ++ '+' :: r ∧ '+' ∉ r ∧
      cuts Level.additive.operators none 0 ('+' :: l.reverse) r = [] ∧
      (∃ c ∈ l, Text.isBlank c = false) ∧ ∃ c ∈ r, Text.isBlank c = false := by
  obtain ⟨first, tail, rfl, hfirst, -⟩ := (framed_of_readNumber? ha).first
  by_cases hmem : '+' ∈ b
  · -- the sign is in the second number, which does not end with it
    obtain ⟨front, r, rfl, hr⟩ := Text.exists_last hmem
    have hr_plain := isPlain_of_last_plus hb hr
    have hr_ne : r ≠ [] := by
      rintro rfl
      exact not_ends_of_readNumber? hb front rfl
    obtain ⟨d, more, hmore⟩ := List.exists_cons_of_ne_nil hr_ne
    refine ⟨first :: (tail ++ ' ' :: (op.symbol ++ ' ' :: front)), r, by simp [spaced], hr, ?_,
      ⟨first, List.mem_cons_self, hfirst⟩, d, by simp [hmore],
      not_isBlank_of_isPlain (hr_plain d (by simp [hmore]))⟩
    rw [← List.append_nil r, cuts_isPlain (by decide) hr_plain, cuts]
  · -- the sign is in the first number, behind its first character
    obtain ⟨hlevel, htail⟩ := htorn.resolve_left hmem
    rw [List.tail_cons] at htail
    obtain ⟨front, r, rfl, hr⟩ := Text.exists_last htail
    obtain ⟨t, d, hlast, hd⟩ := (framed_of_readNumber? hb).last
    have hne : op.level ≠ .additive := by simp [hlevel]
    have hsymbol : '+' ∉ op.symbol := by
      cases op <;> simp_all [Operator.level, Operator.symbol]
    refine ⟨first :: front, r ++ ' ' :: (op.symbol ++ ' ' :: b), by simp [spaced],
      by simp [hr, hsymbol, hmem], ?_, ⟨first, List.mem_cons_self, hfirst⟩, d, by simp [hlast], hd⟩
    have hr_plain := isPlain_of_last_plus (s := first :: front) ha hr
    rw [cuts_isPlain (by decide) hr_plain, cuts_operator_of_level_ne hne,
      ← List.append_nil b, cuts_number_of_not_mem hb hmem, cuts]

/-- The text is cut at its last plus sign if that tears a number. -/
lemma exists_split?_spaced (hop : op.Arithmetic) (ha : readNumber? a = some x)
    (hb : readNumber? b = some y) (htorn : TearsNumber a op b) :
    ∃ l r, spaced a op b = l ++ '+' :: r ∧ '+' ∉ r ∧
      split? (spaced a op b) = some ⟨Text.trim l, .add, Text.trim r⟩ := by
  obtain ⟨l, r, htext, hplus, hcuts, hleft, hright⟩ := exists_last_plus ha hb htorn
  refine ⟨l, r, htext, hplus, ?_⟩
  rw [htext]
  refine split?_last_plus (fun level hlooser => ?_) (fun c hc => ?_) hcuts hleft hright
  · rw [← htext]
    refine cuts_spaced_eq_nil ha hb ?_ ?_
    · rintro rfl
      rcases hop with h | h <;> (rw [h] at hlooser; exact absurd hlooser (by decide))
    · rintro rfl
      exact lt_irrefl _ hlooser
  · have hmem : c ∈ spaced a op b := by simp [htext, hc]
    exact not_quote_of_mem_spaced ha hb hmem

end LastPlus

/-! ## The main result -/

/-- The value of an arithmetic operator between two numbers. If no plus sign tears a number, it is
the result of the operator on the numbers, whatever their notation is. Otherwise the text is cut at
its last plus sign, which is one of a number: what stands before it is evaluated by itself, and the
value is the sum of both. -/
theorem evaluate_numbers (hop : op.Arithmetic) (ha : readNumber? a = some x)
    (hb : readNumber? b = some y) (context : Fields) :
    (¬ TearsNumber a op b →
      evaluate (String.ofList (spaced a op b)) context = op.apply x y) ∧
    (TearsNumber a op b → ∃ l r, spaced a op b = l ++ '+' :: r ∧ '+' ∉ r ∧
      evaluate (String.ofList (spaced a op b)) context =
        sum (eval context false l) (eval context false r)) := by
  have htrim := (tight_spaced ha hb op).trim_eq
  have hliteral := literal?_spaced ha op b
  rw [evaluate, String.toList_ofList]
  constructor
  · intro hwhole
    rw [eval_of_split htrim hliteral (split?_spaced ha hb hop hwhole), eval_number ha,
      eval_number hb]
  · intro htorn
    obtain ⟨l, r, htext, hplus, hsplit⟩ := exists_split?_spaced hop ha hb htorn
    refine ⟨l, r, htext, hplus, ?_⟩
    rw [eval_of_split htrim hliteral hsplit, eval_trim, eval_trim]
    rfl

/-- Signs that are kept, of the numbers and of an exponent, and a plus sign that is not. -/
theorem evaluate_numbers_signs :
    let half : Json := .number (.float 0.5 (by decide))
    let minusFour : Json := .number (.whole (-4) (by decide))
    evaluate "+5e-1 - -4" [] = difference half minusFour ∧
      ∃ l r, "-2 * +1e16".toList = l ++ '+' :: r ∧ '+' ∉ r ∧
        evaluate "-2 * +1e16" [] = sum (eval [] false l) (eval [] false r) := by
  intro half minusFour
  have hhalf : readNumber? ['+', '5', 'e', '-', '1'] = some half :=
    readNumber?_of_readFiniteFloat rfl rfl (by decide +kernel) _
  have hfour : readNumber? ['-', '4'] = some minusFour := rfl
  have htwo : readNumber? ['-', '2'] = some (.number (.whole (-2) (by decide))) := rfl
  have hlarge : readNumber? ['+', '1', 'e', '1', '6'] =
      some (.number (.float 1e16 (by decide))) :=
    readNumber?_of_readFiniteFloat rfl rfl (by decide +kernel) _
  have hsub : Operator.sub.Arithmetic := .inl rfl
  have hmul : Operator.mul.Arithmetic := .inr rfl
  exact ⟨(evaluate_numbers hsub hhalf hfour []).1 (by simp [TearsNumber, Operator.level]),
    (evaluate_numbers hmul htwo hlarge []).2 (by simp [TearsNumber, Operator.level])⟩

/-- The plus sign of a number behind an operator is taken for an operator, although the number is
read with it where it stands alone. -/
theorem evaluate_product_plus :
    let minusTwo : Json := .number (.whole (-2) (by decide))
    let large : Json := .number (.float 1e16 (by decide))
    readNumber? "-2".toList = some minusTwo ∧ readNumber? "+1e16".toList = some large ∧
      evaluate "+1e16" [] = large ∧ evaluate "-2 * +1e16" [] = large ∧
      large ≠ product minusTwo large := by
  intro minusTwo large
  have hlarge : readNumber? "+1e16".toList = some large :=
    readNumber?_of_readFiniteFloat rfl rfl (by decide +kernel) _
  have hunsigned : readNumber? "1e16".toList = some large :=
    readNumber?_of_readFiniteFloat rfl rfl (by decide +kernel) _
  refine ⟨rfl, hlarge, eval_number hlarge [] true, ?_, ?_⟩
  · have htrim : Text.trim "-2 * +1e16".toList = "-2 * +1e16".toList := by decide +kernel
    have hsplit : split? "-2 * +1e16".toList = some ⟨"-2 *".toList, .add, "1e16".toList⟩ := by
      decide +kernel
    have hleft : eval [] false "-2 *".toList = .null := by
      rw [eval_of_none (s := "-2 *".toList) rfl rfl (by decide +kernel)]
      cbv
    have hfloat : coerce .null + coerce large = 1e16 := by decide +kernel
    have hlarge_result : smallInteger? 1e16 = none := by decide +kernel
    rw [evaluate, eval_of_split htrim rfl hsplit, Operator.apply, hleft, eval_number hunsigned, sum,
      ofResult, hfloat, hlarge_result]
    rfl
  · have hfloat : coerce minusTwo * coerce large = -2e16 := by decide +kernel
    have hlarge_result : smallInteger? (-2e16) = none := by decide +kernel
    have hproduct : product minusTwo large = .number (.float (-2e16) (by decide)) := by
      rw [product, ofResult, hfloat, hlarge_result]
      rfl
    intro heq
    rw [hproduct] at heq
    have hsame : (1e16 : Float) = -2e16 := Number.float.inj (Json.number.inj heq)
    exact absurd hsame (by decide +kernel)

end Dataflow.Expr
