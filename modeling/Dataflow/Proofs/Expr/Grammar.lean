import Dataflow.Proofs.Expr.Balance
import Dataflow.Proofs.Expr.Outermost

/-!
# The grammar of expressions

The documented language of expressions as a grammar of texts (`Expression`): literals, paths, and
operators between two expressions. A path is any balanced text that consists of names outside its
quotation marks and brackets (`PathText`). Two expressions with an operator between them are always
cut somewhere (`Expression.split?_binary_ne_none`), though not always at that operator, and a path
is never cut (`PathText.split?_eq_none`). The texts that are written for trees are expressions
(`Tree.Written.expression`).
-/

namespace Dataflow.Expr

open Decimal

variable {level : Level} {op : Operator} {quote : Option Char} {depth : ℕ} {c : Char}
  {before s t l r after : List Char} {v : Json}

/-! ## Paths -/

/-- The characters of names: hyphens, and all that are neither blanks nor quotation marks nor
brackets nor in operators. -/
def isName (c : Char) : Bool :=
  c == '-' || !(Text.isBlank c || isQuote c || c == '[' || c == ']' || symbolChars.contains c)

/-- The characters outside quotation marks and brackets. -/
def outside (quote : Option Char) (depth : ℕ) : List Char → List Char
  | [] => []
  | c :: rest =>
    match quote with
    | some q => outside (if c == q then none else some q) depth rest
    | none =>
      if isQuote c then outside (some c) depth rest
      else if depth = 0 ∧ c ≠ '[' then c :: outside none 0 rest
      else outside none (nesting depth c) rest

/-- The texts of paths: names, with quoted texts and groups in brackets among them. -/
structure PathText (s : List Char) : Prop where
  ne_nil : s ≠ []
  balanced : Balanced s
  names : ∀ c ∈ outside none 0 s, isName c = true

instance (s : List Char) : Decidable (PathText s) :=
  decidable_of_iff (s ≠ [] ∧ Balanced s ∧ (outside none 0 s).all isName = true)
    ⟨fun h => ⟨h.1, h.2.1, List.all_eq_true.mp h.2.2⟩,
      fun h => ⟨h.ne_nil, h.balanced, List.all_eq_true.mpr h.names⟩⟩

lemma isName_iff : isName c = true ↔ c = '-' ∨
    (Text.isBlank c = false ∧ isQuote c = false ∧ c ≠ '[' ∧ c ≠ ']' ∧ c ∉ symbolChars) := by
  simp [isName, and_assoc]

lemma not_isBlank_of_isName (hc : isName c = true) : Text.isBlank c = false := by
  rcases isName_iff.mp hc with rfl | h
  · rfl
  · exact h.1

lemma not_mem_leadChars_of_isName (hc : isName c = true) : c ∉ leadChars := by
  rcases isName_iff.mp hc with rfl | ⟨-, -, -, -, hsymbol⟩
  · decide
  · intro hlead
    refine hsymbol ?_
    simp only [leadChars, List.mem_cons, List.not_mem_nil, or_false] at hlead
    rcases hlead with rfl | rfl | rfl | rfl | rfl | rfl <;> decide

/-- Outside quotation marks and brackets a name has no operator but a hyphen. -/
lemma of_operatorAt_isName (hc : isName c = true)
    (hop : operatorAt level.operators (c :: s) = some (op, after)) : op = .sub ∧ c = '-' := by
  have htext := append_of_operatorAt hop
  have hname : c ∈ symbolChars → c = '-' := fun hsymbol =>
    (isName_iff.mp hc).resolve_right fun h => h.2.2.2.2 hsymbol
  cases op <;> obtain ⟨rfl, -⟩ := List.cons.inj htext
  case sub => exact ⟨rfl, rfl⟩
  all_goals cases hname (by decide)

/-- Quotation marks are not blank. -/
lemma not_isBlank_of_isQuote (hc : isQuote c = true) : Text.isBlank c = false ∧ c ∉ leadChars := by
  simp only [isQuote, Bool.or_eq_true, beq_iff_eq] at hc
  rcases hc with rfl | rfl <;> decide

/-- The open quotation mark, if there is one, is a quotation mark. -/
def Marked (quote : Option Char) : Prop := ∀ q ∈ quote, isQuote q = true

lemma marked_none : Marked none := by
  simp [Marked]

lemma marked_some (hc : isQuote c = true) : Marked (some c) := by
  intro q hq
  exact Option.some.inj hq ▸ hc

/-- It still is behind one more character. -/
lemma Marked.closed {q : Char} (h : Marked (some q)) (c : Char) :
    Marked (if c == q then none else some q) := by
  split
  · exact marked_none
  · exact h

/-- Behind a character the nesting is zero if it was and the character is no opening bracket, or if
the character closes the only bracket. -/
lemma nesting_eq_zero_iff :
    nesting depth c = 0 ↔ (depth = 0 ∧ c ≠ '[') ∨ (depth = 1 ∧ c = ']') := by
  unfold nesting
  by_cases hopen : c = '['
  · simp [hopen]
  · by_cases hclose : c = ']'
    · simp [hclose]
      omega
    · simp [hopen, hclose]

/-- The last character of a text is the last one of its rest, or the text is a single character. -/
lemma mem_getLast?_cons {a : Char} (hc : c ∈ (a :: s).getLast?) :
    (s = [] ∧ c = a) ∨ c ∈ s.getLast? := by
  cases s with
  | nil => exact Or.inl ⟨rfl, (Option.some.inj hc).symm⟩
  | cons b s => exact Or.inr (by rwa [List.getLast?_cons_cons] at hc)

/-- What stands at the end of a balanced text stands outside quotation marks and brackets, or closes
them. -/
lemma mem_outside_of_getLast? (hquote : Marked quote)
    (hbalanced : scanned quote depth s = (none, 0)) (hc : c ∈ s.getLast?) :
    isQuote c = true ∨ c = ']' ∨ c ∈ outside quote depth s := by
  fun_induction outside quote depth s with
  | case1 => cases hc
  | case2 depth a rest q ih =>
    rw [scanned] at hbalanced
    have hq := hquote q rfl
    rcases mem_getLast?_cons hc with ⟨rfl, rfl⟩ | hc
    · by_cases hcq : (c == q) = true
      · rw [beq_iff_eq.mp hcq]
        exact Or.inl hq
      · rw [if_neg hcq] at hbalanced
        cases hbalanced
    · exact ih (by simpa using hquote.closed a) (by simpa using hbalanced) hc
  | case3 depth a rest ha ih =>
    rw [scanned, if_pos ha] at hbalanced
    rcases mem_getLast?_cons hc with ⟨rfl, rfl⟩ | hc
    · cases hbalanced
    · exact ih (marked_some ha) hbalanced hc
  | case4 depth a rest ha hdepth ih =>
    rw [scanned, if_neg ha, nesting_eq_zero_iff.mpr (Or.inl hdepth)] at hbalanced
    rcases mem_getLast?_cons hc with ⟨rfl, rfl⟩ | hc
    · exact Or.inr (Or.inr List.mem_cons_self)
    · exact (ih marked_none hbalanced hc).imp_right (Or.imp_right (List.mem_cons_of_mem a))
  | case5 depth a rest ha hdepth ih =>
    rw [scanned, if_neg ha] at hbalanced
    rcases mem_getLast?_cons hc with ⟨rfl, rfl⟩ | hc
    · have hnesting : nesting depth c = 0 := (Prod.mk.inj hbalanced).2
      exact Or.inr (Or.inl ((nesting_eq_zero_iff.mp hnesting).resolve_left hdepth).2)
    · exact ih marked_none hbalanced hc

/-- A path is not cut: a hyphen in it has no blank in front of it. -/
lemma cuts_eq_nil_of_names (hquote : Marked quote)
    (hbefore : quote = none → depth = 0 → ∀ b ∈ before.head?, Text.isBlank b = false)
    (hnames : ∀ c ∈ outside quote depth s, isName c = true) :
    cuts level.operators quote depth before s = [] := by
  fun_induction cuts level.operators quote depth before s with
  | case1 => rfl
  | case2 depth before c rest q ih =>
    have hq := hquote q rfl
    rw [outside] at hnames
    refine ih (by simpa using hquote.closed c) (fun hclosed _ b hb => ?_) (by simpa using hnames)
    split at hclosed
    · rename_i hcq
      obtain rfl := Option.some.inj hb
      exact (not_isBlank_of_isQuote (beq_iff_eq.mp hcq ▸ hq)).1
    · cases hclosed
  | case3 depth before c rest hc ih =>
    rw [outside, if_pos hc] at hnames
    exact ih (marked_some hc) (fun hnone => absurd hnone (Option.some_ne_none c)) hnames
  | case4 depth before c rest hc hdepth op after hop hlt later hroom ih =>
    exfalso
    obtain ⟨rfl, -⟩ := of_operatorAt hop hdepth
    have hopen := (nesting_eq_zero_iff.mp hdepth).resolve_right (by simp)
    rw [outside, if_neg hc, if_pos hopen, List.forall_mem_cons] at hnames
    obtain ⟨rfl, -⟩ := of_operatorAt_isName hnames.1 hop
    cases before with
    | nil => cases hroom
    | cons b before =>
      have hb := Text.not_isAsciiBlank_of_not_isBlank (hbefore rfl rfl b rfl)
      cases after with
      | nil => cases hroom
      | cons a after => simp [hasRoom, Operator.needsBlanks, hb] at hroom
  | case5 depth before c rest hc hdepth op after hop hlt later hroom ih =>
    obtain ⟨rfl, -⟩ := of_operatorAt hop hdepth
    have hopen := (nesting_eq_zero_iff.mp hdepth).resolve_right (by simp)
    rw [outside, if_neg hc, if_pos hopen, List.forall_mem_cons] at hnames
    obtain ⟨rfl, rfl⟩ := of_operatorAt_isName hnames.1 hop
    obtain ⟨-, rfl⟩ := List.cons.inj (append_of_operatorAt hop)
    exact ih marked_none (fun _ _ b hb => Option.some.inj hb ▸ rfl) hnames.2
  | case6 depth before c rest hc hdepth hop ih =>
    rw [outside, if_neg hc] at hnames
    rcases nesting_eq_zero_iff.mp hdepth with hopen | ⟨rfl, rfl⟩
    · rw [if_pos hopen, List.forall_mem_cons] at hnames
      have hblank := not_isBlank_of_isName hnames.1
      exact ih marked_none (fun _ _ b hb => Option.some.inj hb ▸ hblank) hnames.2
    · exact ih marked_none (fun _ _ b hb => Option.some.inj hb ▸ rfl)
        (by simpa [nesting] using hnames)
  | case7 depth before c rest hc hdepth ih =>
    rw [outside, if_neg hc, if_neg fun hopen => hdepth (nesting_eq_zero_iff.mpr (Or.inl hopen))]
      at hnames
    exact ih marked_none (fun _ hzero => absurd hzero hdepth) hnames

/-! ## Closed texts -/

/-- A text without blanks at its ends, whose quotation marks and brackets are closed and that does
not end in the middle of an operator. -/
structure Closed (s : List Char) : Prop extends Text.Tight s where
  balanced : Balanced s
  ended : ∀ a ∈ s.getLast?, a ∉ leadChars

namespace Closed

/-- A balanced text between two closed ones is closed by them. -/
lemma append (hs : Closed s) (ht : Closed t) {m : List Char} (hm : Balanced m) :
    Closed (s ++ m ++ t) where
  toTight := hs.toTight.append ht.toTight m
  balanced := (hs.balanced.append hm).append ht.balanced
  ended := by
    obtain ⟨u, d, rfl, -⟩ := ht.last
    intro a ha
    refine ht.ended a ?_
    simpa using ha

/-- Characters of numbers are a closed text. -/
lemma of_numeralChar (hne : s ≠ []) (hs : ∀ c ∈ s, NumeralChar c) : Closed s where
  toTight := Text.tight_of_forall hne fun c hc => not_isBlank_of_numeralChar (hs c hc)
  balanced := balanced_of_neutral fun c hc => not_quote_of_numeralChar (hs c hc)
  ended := by
    intro a ha hlead
    have hnone : ∀ a ∈ leadChars, ¬ NumeralChar a := by
      simp [leadChars, NumeralChar, Char.isAlphanum, Char.isAlpha, Char.isUpper, Char.isLower,
        Char.isDigit]
    exact hnone a hlead (hs a (List.mem_of_getLast? ha))

/-- A quoted text is closed. -/
lemma of_quoted {q : Char} (hq : isQuote q = true) (hs : q ∉ s) : Closed (q :: (s ++ [q])) where
  toTight := (OperandText.quoted hq hs).framed.tight
  balanced := balanced_quoted hq hs
  ended := by
    intro a ha
    rw [← List.cons_append, List.getLast?_concat] at ha
    exact Option.some.inj ha ▸ (not_isBlank_of_isQuote hq).2

/-- A literal is closed. -/
lemma of_literal (h : literal? s = some v) : Closed s := by
  rcases literal_cases h with ⟨hne, hs⟩ | ⟨q, inner, hq, hinner, rfl⟩
  · exact of_numeralChar hne hs
  · exact of_quoted hq hinner

end Closed

namespace PathText

/-- A path starts with a quotation mark, a bracket or a name. -/
lemma head (hs : PathText (c :: s)) : isQuote c = true ∨ c = '[' ∨ isName c = true := by
  by_cases hquote : isQuote c = true
  · exact Or.inl hquote
  · by_cases hopen : c = '['
    · exact Or.inr (Or.inl hopen)
    · refine Or.inr (Or.inr (hs.names c ?_))
      rw [outside, if_neg hquote, if_pos ⟨rfl, hopen⟩]
      exact List.mem_cons_self

/-- A path ends with a quotation mark, a bracket or a name. -/
lemma last (hs : PathText s) (hc : c ∈ s.getLast?) :
    isQuote c = true ∨ c = ']' ∨ isName c = true := by
  exact (mem_outside_of_getLast? marked_none hs.balanced hc).imp_right (Or.imp_right (hs.names c))

/-- A path is closed. -/
lemma closed (hs : PathText s) : Closed s where
  first := by
    obtain ⟨c, t, rfl⟩ := List.exists_cons_of_ne_nil hs.ne_nil
    refine ⟨c, t, rfl, ?_⟩
    rcases hs.head with h | rfl | h
    · exact (not_isBlank_of_isQuote h).1
    · rfl
    · exact not_isBlank_of_isName h
  last := by
    obtain ⟨t, d, rfl⟩ := (List.eq_nil_or_concat s).resolve_left hs.ne_nil
    rw [List.concat_eq_append] at hs ⊢
    refine ⟨t, d, rfl, ?_⟩
    rcases hs.last (c := d) (by simp) with h | rfl | h
    · exact (not_isBlank_of_isQuote h).1
    · rfl
    · exact not_isBlank_of_isName h
  balanced := hs.balanced
  ended := by
    intro a ha
    rcases hs.last ha with h | rfl | h
    · exact (not_isBlank_of_isQuote h).2
    · decide
    · exact not_mem_leadChars_of_isName h

/-- No level cuts a path. -/
lemma split?_eq_none (hs : PathText s) : split? s = none := by
  rw [split?, List.findSome?_eq_none_iff]
  intro level _
  exact splitAt?_of_cuts_eq_nil (cuts_eq_nil_of_names marked_none (by simp) hs.names)

end PathText

/-! ## Cuts of tight texts -/

/-- A cut is at one of the operators, and there is something on both sides of it. -/
lemma of_mem_cuts {ops : List Operator} {cut : Cut} (h : cut ∈ cuts ops quote depth before s) :
    cut.op ∈ ops ∧ cut.left ≠ [] ∧ cut.right ≠ [] := by
  fun_induction cuts ops quote depth before s with
  | case1 => cases h
  | case2 depth before c rest q ih => exact ih h
  | case3 depth before c rest hc ih => exact ih h
  | case4 depth before c rest hc hdepth op after hop hlt later hroom ih =>
    rcases List.mem_cons.mp h with rfl | h
    · refine ⟨operator_mem_of_operatorAt hop, ?_⟩
      cases before with
      | nil => cases hroom
      | cons b before =>
        cases after with
        | nil => cases hroom
        | cons a after => exact ⟨by simp, by simp⟩
    · exact ih h
  | case5 depth before c rest hc hdepth op after hop hlt later hroom ih => exact ih h
  | case6 depth before c rest hc hdepth hop ih => exact ih h
  | case7 depth before c rest hc hdepth ih => exact ih h

/-- The sides of a cut are tight, up to blanks beside the operator. -/
lemma tight_of_mem_cuts {ops : List Operator} {cut : Cut} (hs : Text.Tight s)
    (h : cut ∈ cuts ops none 0 [] s) : ∃ l back front r, Text.Tight l ∧ Text.Tight r ∧
      (∀ c ∈ back, Text.isBlank c = true) ∧ (∀ c ∈ front, Text.isBlank c = true) ∧
      cut.left = l ++ back ∧ cut.right = front ++ r := by
  obtain ⟨-, hleft, hright⟩ := of_mem_cuts h
  have htext := append_of_mem_cuts h
  rw [List.reverse_nil, List.nil_append] at htext
  obtain ⟨left, op, right⟩ := cut
  obtain ⟨l, back, hl, hltight, hback⟩ : ∃ l back, left = l ++ back ∧ Text.Tight l ∧
      ∀ c ∈ back, Text.isBlank c = true := by
    obtain ⟨c, u, rfl⟩ := List.exists_cons_of_ne_nil hleft
    obtain ⟨d, t, rfl, hd⟩ := hs.first
    obtain ⟨rfl, -⟩ := List.cons.inj htext
    exact Text.exists_tight_append hd u
  obtain ⟨front, r, hr, hrtight, hfront⟩ : ∃ front r, right = front ++ r ∧ Text.Tight r ∧
      ∀ c ∈ front, Text.isBlank c = true := by
    obtain ⟨u, d, rfl⟩ := (List.eq_nil_or_concat right).resolve_left hright
    obtain ⟨t, e, rfl, he⟩ := hs.last
    simp only [List.concat_eq_append] at htext ⊢
    rw [← List.append_assoc] at htext
    obtain ⟨-, rfl⟩ := List.append_singleton_inj.mp htext
    exact Text.exists_append_tight he u
  exact ⟨l, back, front, r, hltight, hrtight, hback, hfront, hl, hr⟩

/-- Trimming a cut leaves the tight parts of its sides. -/
lemma trim?_of_tight {back front : List Char} (hl : Text.Tight l) (hr : Text.Tight r)
    (hback : ∀ c ∈ back, Text.isBlank c = true) (hfront : ∀ c ∈ front, Text.isBlank c = true)
    (op : Operator) : Cut.trim? ⟨l ++ back, op, front ++ r⟩ = some ⟨l, op, r⟩ := by
  have hnone : ∀ c ∈ ([] : List Char), Text.isBlank c = true := by simp
  have hleft : Text.trim (l ++ back) = l := by simpa using hl.trim_between hnone hback
  have hright : Text.trim (front ++ r) = r := by simpa using hr.trim_between hfront hnone
  simp [Cut.trim?, hleft, hright, hl.ne_nil, hr.ne_nil]

/-- A tight text is cut at every level at which there is a cut. -/
lemma splitAt?_ne_none (hs : Text.Tight s) (hcuts : cuts level.operators none 0 [] s ≠ []) :
    splitAt? level s ≠ none := by
  obtain ⟨⟨left, op, right⟩, hpick⟩ : ∃ cut,
      level.outermost.pick (cuts level.operators none 0 [] s) = some cut := by
    cases level.outermost with
    | leftmost => exact ⟨_, List.head?_eq_some_head hcuts⟩
    | rightmost => exact ⟨_, List.getLast?_eq_some_getLast hcuts⟩
  obtain ⟨l, back, front, r, hl, hr, hback, hfront, rfl, rfl⟩ :=
    tight_of_mem_cuts hs (Side.mem_of_pick hpick)
  rw [splitAt?, hpick, Option.bind_some, trim?_of_tight hl hr hback hfront]
  exact Option.some_ne_none _

/-! ## Expressions -/

/-- The texts of expressions: literals, paths, and two expressions with an operator between them,
blanks around it as they please. A minus sign needs a blank on each side. -/
inductive Expression : List Char → Prop
  | literal {s : List Char} {v : Json} (hs : literal? s = some v) : Expression s
  | path {s : List Char} (hs : PathText s) : Expression s
  | binary {l r before after : List Char} {op : Operator} (hl : Expression l) (hr : Expression r)
      (hbefore : ∀ c ∈ before, Text.isBlank c = true)
      (hafter : ∀ c ∈ after, Text.isBlank c = true)
      (hblanks : op.needsBlanks = true → (∃ b ∈ before.getLast?, Text.isAsciiBlank b = true) ∧
        ∃ a ∈ after.head?, Text.isAsciiBlank a = true) :
      Expression (l ++ before ++ op.symbol ++ after ++ r)

/-- Blanks are neither quotation marks nor brackets. -/
lemma not_quote_of_isBlank (hc : Text.isBlank c = true) :
    isQuote c = false ∧ c ≠ '[' ∧ c ≠ ']' := by
  have h := idle_of_isBlank hc .disjunction
  exact ⟨h.not_quote, h.ne_open, h.ne_close⟩

/-- An operator between blanks is balanced. -/
lemma balanced_between (hbefore : ∀ c ∈ before, Text.isBlank c = true)
    (hafter : ∀ c ∈ after, Text.isBlank c = true) :
    Balanced (before ++ op.symbol ++ after) := by
  refine balanced_of_neutral fun c hc => ?_
  simp only [List.mem_append] at hc
  rcases hc with (hc | hc) | hc
  · exact not_quote_of_isBlank (hbefore c hc)
  · exact not_quote_of_mem_symbol hc
  · exact not_quote_of_isBlank (hafter c hc)

/-- An expression is closed. -/
lemma Expression.closed (hs : Expression s) : Closed s := by
  induction hs with
  | literal hs => exact .of_literal hs
  | path hs => exact hs.closed
  | @binary l r before after op hl hr hbefore hafter hblanks ihl ihr =>
    have hbetween : Balanced (before ++ op.symbol ++ after) := balanced_between hbefore hafter
    have h := ihl.append ihr hbetween
    simpa only [List.append_assoc] using h

/-- An expression does not start with an equals sign. -/
lemma Expression.head?_ne_equals (hs : Expression s) : s.head? ≠ some '=' := by
  induction hs with
  | @literal s v hs =>
    intro h
    obtain ⟨t, rfl⟩ := List.head?_eq_some_iff.mp h
    rcases literal_cases hs with ⟨-, hs⟩ | ⟨q, inner, hq, -, heq⟩
    · have hnumeral := hs '=' List.mem_cons_self
      revert hnumeral
      simp [NumeralChar]
    · obtain ⟨rfl, -⟩ := List.cons.inj heq
      cases hq
  | @path s hs =>
    intro h
    obtain ⟨t, rfl⟩ := List.head?_eq_some_iff.mp h
    rcases hs.head with h | h | h <;> cases h
  | @binary l r before after op hl hr hbefore hafter hblanks ihl ihr =>
    obtain ⟨c, t, rfl⟩ := List.exists_cons_of_ne_nil hl.closed.ne_nil
    exact ihl

/-- An operator between two texts has room if it has the blanks that it needs. -/
lemma hasRoom_between (hl : l ≠ []) (hr : r ≠ [])
    (hblanks : op.needsBlanks = true → (∃ b ∈ before.getLast?, Text.isAsciiBlank b = true) ∧
      ∃ a ∈ after.head?, Text.isAsciiBlank a = true) :
    hasRoom op (before.reverse ++ l.reverse) (after ++ r) = true := by
  by_cases hneeds : op.needsBlanks = true
  · obtain ⟨⟨b, hb, hbblank⟩, a, ha, hablank⟩ := hblanks hneeds
    obtain ⟨u, rfl⟩ := List.getLast?_eq_some_iff.mp hb
    obtain ⟨t, rfl⟩ := List.head?_eq_some_iff.mp ha
    simp [hasRoom, hbblank, hablank]
  · obtain ⟨b, u, hbefore⟩ := List.exists_cons_of_ne_nil
      (List.append_ne_nil_of_right_ne_nil before.reverse (List.reverse_ne_nil_iff.mpr hl))
    obtain ⟨a, t, hafter⟩ := List.exists_cons_of_ne_nil
      (List.append_ne_nil_of_right_ne_nil after hr)
    simp [hbefore, hafter, hasRoom, hneeds]

/-- Two expressions with an operator between them are cut, though not always at the operator. -/
lemma Expression.split?_binary_ne_none (hl : Expression l) (hr : Expression r)
    (hbefore : ∀ c ∈ before, Text.isBlank c = true) (hafter : ∀ c ∈ after, Text.isBlank c = true)
    (hblanks : op.needsBlanks = true → (∃ b ∈ before.getLast?, Text.isAsciiBlank b = true) ∧
      ∃ a ∈ after.head?, Text.isAsciiBlank a = true) :
    split? (l ++ before ++ op.symbol ++ after ++ r) ≠ none := by
  have hroom : hasRoom op (before.reverse ++ l.reverse) (after ++ r) = true :=
    hasRoom_between hl.closed.ne_nil hr.closed.ne_nil hblanks
  have hequals : (after ++ r).head? ≠ some '=' := by
    cases after with
    | nil => exact hr.head?_ne_equals
    | cons a after =>
      intro h
      obtain rfl := Option.some.inj h
      cases hafter '=' List.mem_cons_self
  have hcuts : cuts op.level.operators none 0 [] (l ++ before ++ op.symbol ++ after ++ r) ≠ [] := by
    obtain ⟨cs, hcs⟩ := hl.closed.balanced.exists_cuts_append hl.closed.ended op.level.operators []
      (before ++ (op.symbol ++ (after ++ r)))
    simp only [List.append_assoc]
    rw [hcs, cuts_idle fun c hc => idle_of_isBlank (hbefore c hc) _, List.append_nil,
      cuts_operator op _ fun _ => hequals, hroom]
    simp
  have htight : Text.Tight (l ++ before ++ op.symbol ++ after ++ r) :=
    (Expression.binary hl hr hbefore hafter hblanks).closed.toTight
  intro hnone
  rw [split?, List.findSome?_eq_none_iff] at hnone
  exact splitAt?_ne_none htight hcuts (hnone op.level (by cases op.level <;> decide))

/-! ## Texts of trees -/

/-- Plain characters are characters of names. -/
lemma isName_of_isPlain (hc : isPlain c = true) : isName c = true := by
  by_cases hhyphen : c = '-'
  · exact isName_iff.mpr (Or.inl hhyphen)
  · obtain ⟨hquote, hopen, hclose, -⟩ := idle_of_isPlain hc hhyphen .disjunction
    have hother : ∀ d ∈ symbolChars, d = '-' ∨ isPlain d = false := by
      simp [symbolChars, isPlain, Char.isAlphanum, Char.isAlpha, Char.isUpper, Char.isLower,
        Char.isDigit]
    have hsymbol : c ∉ symbolChars := by
      intro hmem
      rcases hother c hmem with h | h
      · exact hhyphen h
      · exact ne_of_isPlain hc h rfl
    exact isName_iff.mpr (Or.inr ⟨not_isBlank_of_isPlain hc, hquote, hopen, hclose, hsymbol⟩)

/-- A character of a name is neither a quotation mark nor a bracket. -/
lemma not_quote_of_isName (hc : isName c = true) : isQuote c = false ∧ c ≠ '[' ∧ c ≠ ']' := by
  rcases isName_iff.mp hc with rfl | ⟨-, hquote, hopen, hclose, -⟩
  · decide
  · exact ⟨hquote, hopen, hclose⟩

/-- A digit is neither a quotation mark nor a bracket. -/
lemma not_quote_of_isDigit (hc : c.isDigit = true) : isQuote c = false ∧ c ≠ '[' ∧ c ≠ ']' :=
  not_quote_of_numeralChar (Or.inl (isAlphanum_of_isDigit hc))

/-- Nothing stands outside an index in brackets. -/
lemma outside_index (hs : ∀ c ∈ s, c.isDigit = true) (t : List Char) :
    outside none 0 ('[' :: (s ++ ']' :: t)) = outside none 0 t := by
  have hinside : outside none 1 (s ++ ']' :: t) = outside none 0 t := by
    induction s with
    | nil => rfl
    | cons c s ih =>
      obtain ⟨hc, hs⟩ := List.forall_mem_cons.mp hs
      obtain ⟨hquote, hopen, hclose⟩ := not_quote_of_isDigit hc
      have hdepth : nesting 1 c = 1 := by simp [nesting, hopen, hclose]
      rw [List.cons_append, outside, if_neg (by simp [hquote]), if_neg (by simp), hdepth, ih hs]
  rw [outside, if_neg (by decide), if_neg (by decide)]
  exact hinside

/-- A plain text is balanced, and outside its brackets there are names. -/
lemma PlainText.balanced_names (hs : PlainText s) :
    Balanced s ∧ ∀ c ∈ outside none 0 s, isName c = true := by
  induction hs with
  | nil => exact ⟨rfl, by simp [outside]⟩
  | @char c s hc hs ih =>
    have h := not_quote_of_isName (isName_of_isPlain hc)
    obtain ⟨hbalanced, hnames⟩ := ih
    have hc' : Balanced [c] := balanced_of_neutral fun d hd => List.mem_singleton.mp hd ▸ h
    refine ⟨hc'.append hbalanced, ?_⟩
    rw [outside, if_neg (by simp [h.1]), if_pos ⟨rfl, h.2.1⟩, List.forall_mem_cons]
    exact ⟨isName_of_isPlain hc, hnames⟩
  | @index digits s hdigits hs ih =>
    obtain ⟨hbalanced, hnames⟩ := ih
    have hindex : Balanced ('[' :: (digits ++ [']'])) := by
      rw [Balanced, scanned, if_neg (by decide), Expr.scanned_append,
        scanned_of_neutral fun c hc => not_quote_of_isDigit (hdigits c hc)]
      rfl
    refine ⟨?_, by rwa [outside_index hdigits]⟩
    simpa using hindex.append hbalanced

/-- The operands of trees are literals and paths. -/
lemma Atom.expression (a : Atom) : Expression a.text := by
  cases a with
  | truth b =>
    cases b with
    | false => exact .literal (v := .bool false) rfl
    | true => exact .literal (v := .bool true) rfl
  | null => exact .literal (v := .null) rfl
  | quoted mark inner hmark hinner =>
    have hwords := cons_not_mem_words (of_isQuote hmark).1 (inner ++ [mark])
    exact .literal (literal?_of_unquote? hwords (unquote?_quoted hmark hinner))
  | number text v hv hplus => exact .literal (literal?_of_readNumber? hv)
  | path first tail hfirst htail hwords =>
    obtain ⟨hbalanced, hnames⟩ := (PlainText.char (isPlain_of_isAlpha hfirst) htail).balanced_names
    exact .path ⟨List.cons_ne_nil first tail, hbalanced, hnames⟩

/-- The texts that are written for trees are expressions. -/
theorem Tree.Written.expression {t : Tree} (hs : t.Written s) : Expression s := by
  induction hs with
  | atom a => exact a.expression
  | @node op l r s u m n hl hr hblanks ihl ihr =>
    refine .binary ihl ihr (fun c hc => isBlank_of_mem_blanks hc)
      (fun c hc => isBlank_of_mem_blanks hc) fun hneeds => ?_
    obtain ⟨hm, hn⟩ := hblanks (by simpa [Operator.needsBlanks] using hneeds)
    obtain ⟨m, rfl⟩ := Nat.exists_eq_succ_of_ne_zero hm.ne'
    obtain ⟨n, rfl⟩ := Nat.exists_eq_succ_of_ne_zero hn.ne'
    refine ⟨⟨' ', ?_, rfl⟩, ' ', rfl, rfl⟩
    rw [blanks, List.replicate_succ', List.getLast?_concat]
    rfl

end Dataflow.Expr
