import Mathlib
import Dataflow.Expr.Split

/-!
# Scanning an expression

`cuts` reads an expression from left to right. The lemmas here say what it does on one kind of text
at a time, whatever has been passed before and whatever follows: characters that mean nothing at a
level are passed over (`cuts_idle`), and so are quoted texts (`cuts_quoted`), indices in brackets
(`cuts_index`) and hyphens without blanks at both sides (`cuts_hyphen`); an operator of the level
makes a cut if it has room (`cuts_operator`).
-/

namespace Dataflow.Expr

/-- The level an operator belongs to. -/
def Operator.level : Operator → Level
  | .or => .disjunction
  | .and => .conjunction
  | .strictEq | .strictNe | .eq | .ne | .ge | .le | .gt | .lt => .comparison
  | .add | .sub => .additive
  | .mul | .div => .multiplicative

/-- Whether an operator of the level starts with the character. -/
def Level.starts (level : Level) (c : Char) : Bool :=
  level.operators.any fun op => op.symbol.head? == some c

/-- A character that means nothing at a level: it is neither part of an operator of the level nor a
quotation mark nor a bracket. -/
structure Idle (level : Level) (c : Char) : Prop where
  not_quote : isQuote c = false
  ne_open : c ≠ '['
  ne_close : c ≠ ']'
  not_starts : level.starts c = false

/-! ## Operators at the start of a text -/

variable {level : Level} {op : Operator} {c q : Char} {before s after rest : List Char}

/-- A text with another first character has no operator at its start. -/
lemma operatorAt_eq_none (hc : level.starts c = false) (rest : List Char) :
    operatorAt level.operators (c :: rest) = none := by
  rw [operatorAt, List.findSome?_eq_none_iff]
  intro op hop
  rw [Option.map_eq_none_iff]
  obtain ⟨first, more, hsymbol⟩ := List.exists_cons_of_ne_nil op.symbol_ne_nil
  have hne : first ≠ c := by
    rintro rfl
    refine Bool.false_ne_true (hc ▸ List.any_eq_true.mpr ⟨op, hop, ?_⟩)
    simp [hsymbol]
  rw [hsymbol, Text.dropStart?, if_neg (by simpa using hne)]

/-- An operator is read as itself, unless an equals sign behind it makes it a longer one. -/
lemma operatorAt_symbol (op : Operator)
    (hafter : op.level = .comparison → after.head? ≠ some '=') :
    operatorAt op.level.operators (op.symbol ++ after) = some (op, after) := by
  by_cases hcomparison : op.level = .comparison
  · cases after with
    | nil => cases op <;> rfl
    | cons c after =>
      have hc : c ≠ '=' := fun h => hafter hcomparison (by rw [h]; rfl)
      have heq : ('=' == c) = false := beq_false_of_ne hc.symm
      cases op <;> simp [operatorAt, Operator.level, Level.operators, Operator.symbol,
        Text.dropStart?, heq]
  · cases op
    case or | and | add | sub | mul | div => rfl
    all_goals exact absurd rfl hcomparison

/-- The characters of operators. -/
def symbolChars : List Char := ['|', '&', '=', '!', '>', '<', '+', '-', '*', '/']

/-- A character of no operator starts none. -/
lemma starts_eq_false (hc : c ∉ symbolChars) (level : Level) : level.starts c = false := by
  rw [Level.starts, List.any_eq_false]
  intro op _ hstarts
  refine hc ?_
  obtain ⟨first, more, hsymbol⟩ := List.exists_cons_of_ne_nil op.symbol_ne_nil
  have hfirst : first = c := by simpa [hsymbol] using hstarts
  have hmem : ∀ op : Operator, ∀ d ∈ op.symbol, d ∈ symbolChars := by
    intro op
    cases op <;> simp [Operator.symbol, symbolChars]
  exact hmem op c (by rw [hsymbol, hfirst]; exact List.mem_cons_self)

/-- Blanks mean nothing at any level. -/
lemma idle_of_isBlank (hc : Text.isBlank c = true) (level : Level) : Idle level c := by
  have hne : ∀ d, Text.isBlank d = false → c ≠ d := by
    rintro d hd rfl
    rw [hc] at hd
    cases hd
  refine ⟨?_, hne '[' (by decide), hne ']' (by decide), starts_eq_false (fun hmem => ?_) level⟩
  · simp [isQuote, hne '"' (by decide), hne '\'' (by decide)]
  · have hsymbol : ∀ d ∈ symbolChars, Text.isBlank d = false := by
      simp [symbolChars, Text.isBlank]
    exact hne c (hsymbol c hmem) rfl

/-! ## Passing over a text -/

/-- A character that is outside brackets and starts nothing is passed over. -/
lemma cuts_cons_of_operatorAt_eq_none (hquote : isQuote c = false) (hdepth : nesting 0 c = 0)
    (hnone : operatorAt level.operators (c :: rest) = none) :
    cuts level.operators none 0 before (c :: rest) =
      cuts level.operators none 0 (c :: before) rest := by
  rw [cuts, if_neg (by simp [hquote]), if_pos hdepth]
  split
  · rename_i hsome
    rw [hnone] at hsome
    cases hsome
  · rfl

/-- Idle characters are passed over. -/
lemma cuts_idle (hs : ∀ c ∈ s, Idle level c) :
    cuts level.operators none 0 before (s ++ rest) =
      cuts level.operators none 0 (s.reverse ++ before) rest := by
  induction s generalizing before with
  | nil => rfl
  | cons c s ih =>
    obtain ⟨hc, hs⟩ := List.forall_mem_cons.mp hs
    have hdepth : nesting 0 c = 0 := by simp [nesting, hc.ne_open, hc.ne_close]
    rw [List.cons_append, cuts_cons_of_operatorAt_eq_none hc.not_quote hdepth
      (operatorAt_eq_none hc.not_starts _), ih hs]
    simp

/-- A quoted text is passed over, once its first quotation mark has been read. -/
lemma cuts_quote_open {ops : List Operator} (hs : q ∉ s) :
    cuts ops (some q) 0 before (s ++ q :: rest) =
      cuts ops none 0 (q :: s.reverse ++ before) rest := by
  induction s generalizing before with
  | nil =>
    rw [List.nil_append, cuts, if_pos (beq_self_eq_true q)]
    rfl
  | cons c s ih =>
    rw [List.mem_cons, not_or] at hs
    rw [List.cons_append, cuts, if_neg (by simpa using Ne.symm hs.1), ih hs.2]
    simp

/-- A quoted text is passed over. -/
lemma cuts_quoted {ops : List Operator} (hq : isQuote q = true) (hs : q ∉ s) :
    cuts ops none 0 before (q :: (s ++ q :: rest)) =
      cuts ops none 0 (q :: (s.reverse ++ q :: before)) rest := by
  rw [cuts, if_pos hq, cuts_quote_open hs, List.cons_append]

/-- What stands in brackets is passed over. -/
lemma cuts_brackets_open {ops : List Operator}
    (hs : ∀ c ∈ s, isQuote c = false ∧ c ≠ '[' ∧ c ≠ ']')
    (hnone : operatorAt ops (']' :: rest) = none) :
    cuts ops none 1 before (s ++ ']' :: rest) =
      cuts ops none 0 (']' :: s.reverse ++ before) rest := by
  induction s generalizing before with
  | nil =>
    rw [List.nil_append, cuts, if_neg (by decide), if_pos (by decide)]
    split
    · rename_i hsome
      rw [hnone] at hsome
      cases hsome
    · rfl
  | cons c s ih =>
    obtain ⟨⟨hquote, hopen, hclose⟩, hs⟩ := List.forall_mem_cons.mp hs
    have hdepth : nesting 1 c = 1 := by simp [nesting, hopen, hclose]
    rw [List.cons_append, cuts, if_neg (by simp [hquote]), if_neg (by simp [hdepth]), hdepth, ih hs]
    simp

/-- An index in brackets is passed over. -/
lemma cuts_index (hs : ∀ c ∈ s, c.isDigit = true) :
    cuts level.operators none 0 before ('[' :: (s ++ ']' :: rest)) =
      cuts level.operators none 0 (']' :: (s.reverse ++ '[' :: before)) rest := by
  have hclose : operatorAt level.operators (']' :: rest) = none :=
    operatorAt_eq_none (by cases level <;> decide) rest
  have hdigits : ∀ c ∈ s, isQuote c = false ∧ c ≠ '[' ∧ c ≠ ']' := fun c hc => by
    have hdigit := hs c hc
    refine ⟨?_, ?_, ?_⟩
    · rw [isQuote, Bool.or_eq_false_iff]
      constructor
      · rw [beq_eq_false_iff_ne]
        rintro rfl
        cases hdigit
      · rw [beq_eq_false_iff_ne]
        rintro rfl
        cases hdigit
    · rintro rfl
      cases hdigit
    · rintro rfl
      cases hdigit
  rw [cuts, if_neg (by decide), if_neg (by decide)]
  exact cuts_brackets_open hdigits hclose

/-! ## Operators -/

/-- The characters of an operator are neither quotation marks nor brackets. -/
lemma not_quote_of_mem_symbol (hc : c ∈ op.symbol) : isQuote c = false ∧ c ≠ '[' ∧ c ≠ ']' := by
  have hneutral : ∀ c ∈ op.symbol, isQuote c = false ∧ c ≠ '[' ∧ c ≠ ']' := by
    cases op <;> simp [Operator.symbol, isQuote]
  exact hneutral c hc

/-- What is read as an operator makes a cut if it has room, and is passed over in any case. -/
lemma cuts_of_operatorAt {ops : List Operator} {depth : ℕ}
    (hop : operatorAt ops s = some (op, after)) (hdepth : depth = 0) :
    cuts ops none depth before s =
      (if hasRoom op before after then [⟨before.reverse, op, after⟩] else []) ++
        cuts ops none 0 (op.symbol.reverse ++ before) after := by
  have htext := append_of_operatorAt hop
  obtain ⟨c, more, hsymbol⟩ := List.exists_cons_of_ne_nil op.symbol_ne_nil
  obtain ⟨hquote, hopen, hclose⟩ := not_quote_of_mem_symbol (hsymbol ▸ List.mem_cons_self)
  have hnesting : nesting depth c = 0 := by simp [nesting, hopen, hclose, hdepth]
  rw [hsymbol, List.cons_append] at htext
  subst htext
  rw [cuts, if_neg (by simp [hquote]), if_pos hnesting]
  split
  · rename_i op' after' hsome
    rw [hop] at hsome
    obtain ⟨rfl, rfl⟩ := Prod.mk.inj (Option.some.inj hsome)
    by_cases hroom : hasRoom op before after = true
    · rw [if_pos hroom, if_pos hroom, List.singleton_append]
    · rw [if_neg hroom, if_neg hroom, List.nil_append]
  · rename_i hnone
    rw [hop] at hnone
    cases hnone

/-- An operator makes a cut if it has room, and is passed over in any case. -/
lemma cuts_operator (op : Operator) (before : List Char)
    (hafter : op.level = .comparison → after.head? ≠ some '=') :
    cuts op.level.operators none 0 before (op.symbol ++ after) =
      (if hasRoom op before after then [⟨before.reverse, op, after⟩] else []) ++
        cuts op.level.operators none 0 (op.symbol.reverse ++ before) after :=
  cuts_of_operatorAt (operatorAt_symbol op hafter) rfl

/-- A hyphen that has no blanks at both sides is passed over. -/
lemma cuts_hyphen (hroom : hasRoom .sub before rest = false) :
    cuts level.operators none 0 before ('-' :: rest) =
      cuts level.operators none 0 ('-' :: before) rest := by
  by_cases hlevel : level = .additive
  · subst hlevel
    have hcuts : cuts Level.additive.operators none 0 before ('-' :: rest) = _ :=
      cuts_operator .sub before nofun
    rwa [hroom, if_neg Bool.false_ne_true, List.nil_append] at hcuts
  · refine cuts_cons_of_operatorAt_eq_none rfl rfl (operatorAt_eq_none ?_ _)
    cases level with
    | additive => exact absurd rfl hlevel
    | disjunction | conjunction | comparison | multiplicative => rfl

end Dataflow.Expr
