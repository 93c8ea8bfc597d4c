import Dataflow.Proofs.Expr.Evaluation
import Dataflow.Proofs.Expr.Outermost

/-!
# Precedence

Expressions are evaluated without a parser, by cutting texts at operators. Still the value of a text
that is written for a tree is the value of that tree (`evaluate_written`).

An operand stands for its value (`Atom.eval_text`), and a text that goes on behind its first operand
is no literal (`Tree.Written.literal?_eq_none`). So the text of a nested tree is evaluated along the
tree (`Tree.Written.eval_of_nested`). The logical operators are cut at the leftmost place whatever
the tree; as they are associative, every tree can be nested that way
(`Tree.Written.exists_nested`).
-/

namespace Dataflow.Expr

open Decimal

/-! ## Operands -/

namespace Atom

variable {context : Fields} {whole : Bool} {c : Char}

/-- What is continued by a blank or an operator is no literal. -/
lemma literal?_append (a : Atom) (hc : Breaks c) (rest : List Char) :
    literal? (a.text ++ c :: rest) = none := by
  have hwords : a.text ++ c :: rest ∉ words := by
    intro hwords
    have halpha := isAlpha_of_mem_words hwords
      (List.mem_append_right a.text (List.mem_cons_self : c ∈ c :: rest))
    rw [hc.not_alpha] at halpha
    cases halpha
  cases a with
  | truth b =>
    cases b with
    | false => exact literal?_cons_eq_none (a := 'f') (by decide) hwords
    | true => exact literal?_cons_eq_none (a := 't') (by decide) hwords
  | null => exact literal?_cons_eq_none (a := 'n') (by decide) hwords
  | quoted mark inner hmark hinner =>
    refine literal?_eq_none hwords ?_ (readNumber?_cons_eq_none (of_isQuote hmark).2 _)
    rw [text, List.cons_append, List.append_assoc, List.singleton_append]
    exact unquote?_append inner (List.cons_ne_nil c rest)
  | number text v hv hplus => exact literal?_append_of_readNumber? hv hc rest
  | path first tail hfirst htail _ => exact literal?_cons_eq_none hfirst hwords

/-- No level cuts an operand. -/
lemma split?_text (a : Atom) : split? a.text = none := by
  rw [split?, List.findSome?_eq_none_iff]
  intro level _
  refine splitAt?_of_cuts_eq_nil ?_
  rw [← List.append_nil a.text, a.operandText.cuts_append, cuts]

/-- An operand stands for its value. -/
lemma eval_text (context : Fields) (whole : Bool) (a : Atom) :
    eval context whole a.text = a.value context whole := by
  have htrim : Text.trim a.text = a.text := by
    simpa [blanks] using trim_blanks a.operandText.framed 0 0
  cases a with
  | truth b =>
    cases b with
    | false => exact eval_of_literal htrim rfl
    | true => exact eval_of_literal htrim rfl
  | null => exact eval_of_literal htrim rfl
  | quoted mark inner hmark hinner =>
    have hwords := cons_not_mem_words (of_isQuote hmark).1 (inner ++ [mark])
    exact eval_of_literal htrim (literal?_of_unquote? hwords (unquote?_quoted hmark hinner))
  | number text v hv hplus => exact eval_of_literal htrim (literal?_of_readNumber? hv)
  | path first tail hfirst htail hwords =>
    have hliteral : literal? (first :: tail) = none := literal?_cons_eq_none hfirst hwords
    have heval : eval context whole (first :: tail) = lookUp context whole (first :: tail) :=
      eval_of_none htrim hliteral (split?_text (.path first tail hfirst htail hwords))
    rw [text, heval, lookUp, value]
    cases Fields.at? context (first :: tail) with
    | none => rfl
    | some v => rfl

end Atom

/-! ## Values of nested trees -/

section Values

variable {context : Fields} {op : Operator} {l r t : Tree} {s u : List Char}

/-- The characters of operators end numerals. -/
lemma breaks_of_mem_symbol (op : Operator) {c : Char} (hc : c ∈ op.symbol) : Breaks c := by
  have hbreaks : ∀ c ∈ op.symbol, c.isAlphanum = false ∧ c ≠ '.' := by
    cases op <;> simp [Operator.symbol, Char.isAlphanum, Char.isAlpha, Char.isUpper, Char.isLower,
      Char.isDigit]
  exact ⟨(hbreaks c hc).1, (hbreaks c hc).2⟩

namespace Tree.Written

/-- A text starts with an operand, and if that is not all, goes on with a space or an operator. -/
lemma exists_head (hs : t.Written s) :
    (∃ a, t = .atom a ∧ s = a.text) ∨ ∃ a c rest, s = Atom.text a ++ c :: rest ∧ Breaks c := by
  induction hs with
  | atom a => exact Or.inl ⟨a, rfl, rfl⟩
  | @node op l r s u m n hl hr hblanks ihl ihr =>
    right
    rcases ihl with ⟨a, rfl, rfl⟩ | ⟨a, c, rest, rfl, hc⟩
    · cases m with
      | zero =>
        obtain ⟨c, more, hsymbol⟩ := List.exists_cons_of_ne_nil op.symbol_ne_nil
        refine ⟨a, c, more ++ (blanks n ++ u), by simp [blanks, hsymbol], ?_⟩
        exact breaks_of_mem_symbol op (hsymbol ▸ List.mem_cons_self)
      | succ m =>
        refine ⟨a, ' ', blanks m ++ (op.symbol ++ (blanks n ++ u)), ?_, ⟨rfl, by decide⟩⟩
        simp [blanks, List.replicate_succ]
    · exact ⟨a, c, rest ++ (blanks m ++ (op.symbol ++ (blanks n ++ u))), by simp, hc⟩

/-- The text of an operator on two trees is no literal. -/
lemma literal?_eq_none (hs : (Tree.node op l r).Written s) : literal? s = none := by
  rcases hs.exists_head with ⟨a, h, -⟩ | ⟨a, c, rest, rfl, hc⟩
  · cases h
  · exact a.literal?_append hc rest

/-- The text of a nested tree stands for the value of the tree. -/
lemma eval_of_nested (hs : t.Written s) (ht : t.Nested) (whole : Bool) :
    eval context whole s = t.value context whole := by
  induction hs generalizing whole with
  | atom a => exact a.eval_text context whole
  | @node op l r s u m n hl hr hblanks ihl ihr =>
    obtain ⟨htl, htr, hnests⟩ := ht
    have hnode := Written.node m n hl hr hblanks
    have htrim : Text.trim (s ++ blanks m ++ op.symbol ++ blanks n ++ u) =
        s ++ blanks m ++ op.symbol ++ blanks n ++ u := by
      simpa [blanks] using trim_blanks hnode.framed 0 0
    rw [eval_of_split htrim hnode.literal?_eq_none (hl.split?_node hr htl htr hnests hblanks),
      ihl htl, ihr htr]
    rfl

end Tree.Written

/-! ## Nesting to the right -/

/-- The logical operators. -/
def Operator.Logical (op : Operator) : Prop := op = .or ∨ op = .and

namespace Operator.Logical

/-- The logical operators are associative, for they look at nothing but truth. -/
lemma apply_apply_left (hop : op.Logical) (a b c : Json) :
    op.apply (op.apply a b) c = op.apply a (op.apply b c) := by
  rcases hop with rfl | rfl
  · simp [Operator.apply, Json.isTruthy, Bool.or_assoc]
  · simp [Operator.apply, Json.isTruthy, Bool.and_assoc]

/-- A logical operator is alone at its level. -/
lemma eq_of_level_eq (hop : op.Logical) {op' : Operator} (h : op'.level = op.level) :
    op' = op := by
  rcases hop with rfl | rfl
  · cases op' <;> simp_all [Operator.level]
  · cases op' <;> simp_all [Operator.level]

/-- The level of a logical operator is cut at the leftmost place. -/
lemma nests_iff (hop : op.Logical) {left right : ℕ} :
    op.level.Nests left right ↔ op.level.rank < left ∧ op.level.rank ≤ right := by
  rcases hop with rfl | rfl
  · exact Iff.rfl
  · exact Iff.rfl

/-- Only the minus sign needs spaces. -/
lemma ne_sub (hop : op.Logical) : op ≠ .sub := by
  rcases hop with rfl | rfl
  · decide
  · decide

end Operator.Logical

/-- The levels of the other operators are cut the way their trees are grouped. -/
lemma nests_of_groups (hop : ¬ op.Logical) {left right : ℕ} (h : op.level.Groups left right) :
    op.level.Nests left right := by
  rw [Operator.Logical, not_or] at hop
  cases op
  case or => exact absurd rfl hop.1
  case and => exact absurd rfl hop.2
  all_goals exact h

namespace Tree.Written

/-- A logical operator between two nested trees: the trees at its left are moved to the right one
by one. -/
lemma exists_nested_node (hop : op.Logical) (hl : l.Written s) (hr : r.Written u) (htl : l.Nested)
    (htr : r.Nested) (hleft : op.level.rank ≤ l.rank) (hright : op.level.rank ≤ r.rank) (m n : ℕ) :
    ∃ t : Tree, t.Nested ∧ t.Written (s ++ blanks m ++ op.symbol ++ blanks n ++ u) ∧
      t.rank = op.level.rank ∧ ∀ context whole, t.value context whole =
        op.apply (l.value context false) (r.value context false) := by
  have hblanks : ∀ m n, op = .sub → 0 < m ∧ 0 < n := fun _ _ h => absurd h hop.ne_sub
  induction hl with
  | atom a =>
    have hnests := hop.nests_iff.mpr ⟨op.level.rank_lt, hright⟩
    exact ⟨.node op (.atom a) r, ⟨trivial, htr, hnests⟩, .node m n (.atom a) hr (hblanks m n), rfl,
      fun _ _ => rfl⟩
  | @node op' l' r' s' u' m' n' hl' hr' hblanks' ihl' ihr' =>
    rcases hleft.lt_or_eq with hlt | heq
    · have hnests := hop.nests_iff.mpr ⟨hlt, hright⟩
      exact ⟨.node op (.node op' l' r') r, ⟨htl, htr, hnests⟩,
        .node m n (.node m' n' hl' hr' hblanks') hr (hblanks m n), rfl, fun _ _ => rfl⟩
    · -- the operator at the root of the left tree is the same one
      obtain rfl := hop.eq_of_level_eq (Level.rank_injective heq).symm
      obtain ⟨htl', htr', hnests⟩ := htl
      obtain ⟨hl'rank, hr'rank⟩ := hop.nests_iff.mp hnests
      obtain ⟨t, htt, hwritten, hrank, hvalue⟩ := ihr' htr' hr'rank
      refine ⟨.node op' l' t, ⟨htl', htt, hop.nests_iff.mpr ⟨hl'rank, hrank.ge⟩⟩, ?_, rfl, ?_⟩
      · have hnode := Written.node m' n' hl' hwritten (hblanks m' n')
        simpa only [List.append_assoc] using hnode
      · intro context whole
        rw [Tree.value, hvalue, Tree.value, hop.apply_apply_left]

/-- Every text of a tree is also that of a nested tree with the same value. -/
lemma exists_nested (hs : t.Written s) (ht : t.Grouped) :
    ∃ t' : Tree, t'.Nested ∧ t'.Written s ∧ t'.rank = t.rank ∧
      ∀ context whole, t'.value context whole = t.value context whole := by
  induction hs with
  | atom a => exact ⟨.atom a, trivial, .atom a, rfl, fun _ _ => rfl⟩
  | @node op l r s u m n hl hr hblanks ihl ihr =>
    obtain ⟨htl, htr, hgroups⟩ := ht
    obtain ⟨l', hl', hlw, hlrank, hlvalue⟩ := ihl htl
    obtain ⟨r', hr', hrw, hrrank, hrvalue⟩ := ihr htr
    by_cases hop : op.Logical
    · obtain ⟨t, ht, hwritten, hrank, hvalue⟩ := exists_nested_node hop hlw hrw hl' hr'
        (hlrank ▸ hgroups.le.1) (hrrank ▸ hgroups.le.2) m n
      refine ⟨t, ht, hwritten, hrank, fun context whole => ?_⟩
      rw [hvalue, hlvalue, hrvalue, Tree.value]
    · refine ⟨.node op l' r', ⟨hl', hr', ?_⟩, .node m n hlw hrw hblanks, rfl, fun context _ => ?_⟩
      · rw [hlrank, hrrank]
        exact nests_of_groups hop hgroups
      · rw [Tree.value, Tree.value, hlvalue, hrvalue]

end Tree.Written

/-! ## The main result -/

/-- A text that is written for a tree without parentheses evaluates to the value of the tree. -/
theorem evaluate_written (ht : t.Grouped) (hs : t.Written s) (context : Fields) :
    evaluate (String.ofList s) context = t.value context true := by
  obtain ⟨t', ht', hs', -, hvalue⟩ := hs.exists_nested ht
  rw [evaluate, String.toList_ofList, hs'.eval_of_nested ht' true, hvalue]

/-- A hyphen in a name, an operator in quotation marks, a negative number and a minus sign. -/
theorem evaluate_written_hyphens :
    let name : Atom := .path 'n' ['-', 'x', '[', '0', ']'] rfl
      (.char rfl (.char rfl (@PlainText.index ['0'] [] (by simp) .nil))) (by simp [words])
    let quoted : Atom := .quoted '\'' ['x', '|', '|', 'y'] rfl (by simp)
    let number : Atom := .number ['-', '1'] (.number (.whole (-1) (by decide))) rfl (by simp)
    let t : Tree := .node .or (.node .strictEq (.atom name) (.atom quoted))
      (.node .sub (.atom number) (.atom name))
    let context : Fields := [("n-x", .array [.string "x||y"])]
    ∃ s, String.ofList s = "n-x[0]=== 'x||y'||-1 - n-x[0]" ∧ t.Grouped ∧ t.Written s ∧
      evaluate (String.ofList s) context = t.value context true ∧
      t.value context true = .bool true := by
  have hpath : Fields.at? [("n-x", .array [.string "x||y"])] ['n', '-', 'x', '[', '0', ']'] =
      some (.string "x||y") := by
    cbv
  intro name quoted number t context
  have ht : t.Grouped := by
    simp [t, Tree.Grouped, Level.Groups, Tree.rank, Operator.level, Level.rank]
  have hequal : (Tree.node .strictEq (.atom name) (.atom quoted)).Written _ :=
    .node 0 1 (.atom name) (.atom quoted) (by decide)
  have hminus : (Tree.node .sub (.atom number) (.atom name)).Written _ :=
    .node 1 1 (.atom number) (.atom name) (by decide)
  have hs : t.Written _ := .node 0 0 hequal hminus (by decide)
  refine ⟨_, ?_, ht, hs, evaluate_written ht hs context, ?_⟩
  · decide
  · have hname : name.value context false = .string "x||y" := by
      rw [Atom.value, hpath]
      rfl
    have hleft : (Tree.node .strictEq (.atom name) (.atom quoted)).value context false =
        .bool true := by
      rw [Tree.value, Tree.value, Tree.value, hname]
      rfl
    rw [Tree.value, hleft]
    rfl

end Values

end Dataflow.Expr
