import Dataflow.Kinds.Decision
import Dataflow.Kinds.Transform
import Dataflow.Proofs.Expr.Evaluation
import Dataflow.Proofs.Expr.Grammar
import Dataflow.Proofs.Keyed
import Dataflow.Proofs.Path.Keys

/-!
# Expressions that decide, alone and as operands

An expression with `|| false` behind it stands for the truth value of the expression as an operand
(`Expr.eval_or_false`). So a node that decides by the truth of an expression decides the same by the
longer one, unless the expression is a path that leads nowhere: alone it stands for its own text,
which is true, and as an operand for `null` (`Kinds.decides_as_operand`).
-/

namespace Dataflow

namespace Expr

variable {context : Fields} {whole : Bool} {s w front r left : List Char} {v : Json}

/-- The word `false` as the right operand. -/
def falseOperand : List Char := [' ', 'f', 'a', 'l', 's', 'e']

/-- What makes an expression an operand without changing its truth. -/
def orFalse : List Char := Operator.or.symbol ++ falseOperand

lemma tight_orFalse : Text.Tight orFalse where
  first := ⟨'|', ['|', ' ', 'f', 'a', 'l', 's', 'e'], rfl, rfl⟩
  last := ⟨['|', '|', ' ', 'f', 'a', 'l', 's'], 'e', rfl, rfl⟩

lemma tight_false : Text.Tight ['f', 'a', 'l', 's', 'e'] where
  first := ⟨'f', ['a', 'l', 's', 'e'], rfl, rfl⟩
  last := ⟨['f', 'a', 'l', 's'], 'e', rfl, rfl⟩

lemma idle_of_mem_falseOperand {c : Char} (hc : c ∈ falseOperand) (level : Level) :
    Idle level c := by
  rcases List.mem_cons.mp hc with rfl | hc
  · exact idle_of_isBlank rfl level
  · have hplain : ∀ c ∈ ['f', 'a', 'l', 's', 'e'], isPlain c = true ∧ c ≠ '-' := by
      simp [isPlain, Char.isAlphanum, Char.isAlpha, Char.isUpper, Char.isLower]
    exact idle_of_isPlain (hplain c hc).1 (hplain c hc).2 level

lemma literal?_or_false (s : List Char) : literal? (s ++ orFalse) = none := by
  by_contra hne
  obtain ⟨v, hv⟩ := Option.ne_none_iff_exists'.mp hne
  rcases literal_cases hv with ⟨-, hs⟩ | ⟨q, inner, hq, -, heq⟩
  · have hbar := hs '|' (List.mem_append_right s List.mem_cons_self)
    revert hbar
    simp [Decimal.NumeralChar]
  · have hlast := congrArg List.getLast? heq
    rw [← List.cons_append, List.getLast?_concat, List.getLast?_append] at hlast
    obtain rfl := Option.some.inj hlast
    cases hq

/-- A literal is not cut at the loosest level. -/
lemma cuts_literal (h : literal? s = some v) :
    cuts Level.disjunction.operators none 0 [] s = [] := by
  rcases literal_cases h with ⟨-, hs⟩ | ⟨q, inner, hq, hinner, rfl⟩
  · rw [← List.append_nil s,
      cuts_idle fun c hc => idle_of_numeralChar (hs c hc) (by decide), cuts]
  · rw [cuts_quoted hq hinner, cuts]

/-- The cuts of a disjunction with `false` are those of the text before it and one more. -/
lemma cuts_or_false (hs : Closed s) (hw : ∀ c ∈ w, Text.isBlank c = true) :
    cuts Level.disjunction.operators none 0 [] (s ++ w ++ orFalse) =
      (cuts Level.disjunction.operators none 0 [] s).map (·.extend (w ++ orFalse)) ++
        [⟨s ++ w, .or, falseOperand⟩] := by
  have hend : ∀ op ∈ Level.disjunction.operators, ∀ a ∈ s.getLast?, a ∉ op.symbol := by
    intro op hop a ha hmem
    obtain rfl := List.mem_singleton.mp hop
    have hbar : a = '|' := by simpa [Operator.symbol] using hmem
    exact hs.ended a ha (hbar ▸ by decide)
  have hroom : hasRoom .or (w.reverse ++ s.reverse) ([] ++ falseOperand) = true := by
    have hblanks : Operator.or.needsBlanks = false := rfl
    exact hasRoom_between hs.ne_nil (by decide) (by simp [hblanks])
  rw [List.nil_append] at hroom
  have hcuts : cuts Level.disjunction.operators none 0 (w.reverse ++ s.reverse) orFalse =
      [⟨s ++ w, .or, falseOperand⟩] := by
    have hoperator : cuts Level.disjunction.operators none 0 (w.reverse ++ s.reverse) orFalse = _ :=
      cuts_operator .or _ fun hlevel => absurd hlevel (by decide)
    have hnone : cuts Level.disjunction.operators none 0
        (Operator.or.symbol.reverse ++ (w.reverse ++ s.reverse)) falseOperand = [] := by
      rw [← List.append_nil falseOperand, cuts_idle fun c hc => idle_of_mem_falseOperand hc _, cuts]
    rw [hoperator, hroom, if_pos rfl, List.reverse_append, List.reverse_reverse,
      List.reverse_reverse]
    exact congrArg (_ :: ·) hnone
  rw [List.append_assoc, hs.balanced.cuts_append hs.ended hend,
    cuts_idle fun c hc => idle_of_isBlank (hw c hc) _, List.append_nil, hcuts]

/-- The text at the right of a cut is closed, up to blanks at its start. -/
lemma Closed.right {ops : List Operator} {op : Operator} (hs : Closed s)
    (h : ⟨left, op, front ++ r⟩ ∈ cuts ops none 0 [] s)
    (hfront : ∀ c ∈ front, Text.isBlank c = true) (hr : Text.Tight r) : Closed r where
  toTight := hr
  balanced := by
    have hblanks : Balanced front :=
      balanced_of_neutral fun c hc => not_quote_of_isBlank (hfront c hc)
    exact hblanks.of_append ((scanned_right h).trans hs.balanced)
  ended := by
    have htext := append_of_mem_cuts h
    rw [List.reverse_nil, List.nil_append, ← List.append_assoc] at htext
    exact forall_getLast?_of_append (htext ▸ hs.ended)

/-- A text is cut at the loosest level if anything cuts it there. -/
lemma split?_of_head {cut cut' : Cut} {more : List Cut}
    (hcuts : cuts Level.disjunction.operators none 0 [] s = cut :: more)
    (htrim : cut.trim? = some cut') : split? s = some cut' := by
  have hcut : splitAt? .disjunction s = some cut' := by
    rw [splitAt?, hcuts]
    exact htrim
  exact split?_of_splitAt? (fun level hlt => absurd hlt (Nat.not_lt_zero _)) hcut

/-- Behind a text that is no disjunction `|| false` is split off. Otherwise the text is split where
it was, and `|| false` is put behind its right side. -/
lemma split?_or_false (hs : Closed s) (hw : ∀ c ∈ w, Text.isBlank c = true) :
    split? (s ++ w ++ orFalse) = some ⟨s, .or, ['f', 'a', 'l', 's', 'e']⟩ ∨
      ∃ l r, Closed r ∧ literal? s = none ∧ split? s = some ⟨l, .or, r⟩ ∧
        split? (s ++ w ++ orFalse) = some ⟨l, .or, r ++ w ++ orFalse⟩ := by
  have hcuts := cuts_or_false hs hw
  cases hfirst : cuts Level.disjunction.operators none 0 [] s with
  | nil =>
    refine Or.inl ?_
    rw [hfirst] at hcuts
    exact split?_of_head hcuts
      (trim?_of_tight hs.toTight tight_false hw (fun c hc => List.mem_singleton.mp hc ▸ rfl) .or)
  | cons cut more =>
    have hmem : cut ∈ cuts Level.disjunction.operators none 0 [] s := hfirst ▸ List.mem_cons_self
    obtain ⟨l, back, front, r, hl, hr, hback, hfront, hleft, hright⟩ :=
      tight_of_mem_cuts hs.toTight hmem
    obtain ⟨left, op, right⟩ := cut
    obtain rfl : op = .or := List.mem_singleton.mp (of_mem_cuts hmem).1
    subst hleft hright
    have hliteral : literal? s = none := by
      by_contra hne
      obtain ⟨v, hv⟩ := Option.ne_none_iff_exists'.mp hne
      rw [cuts_literal hv] at hfirst
      cases hfirst
    refine Or.inr ⟨l, r, hs.right hmem hfront hr, hliteral, ?_, ?_⟩
    · exact split?_of_head hfirst (trim?_of_tight hl hr hback hfront .or)
    · rw [hfirst, List.map_cons, List.cons_append] at hcuts
      refine split?_of_head hcuts ?_
      have h := trim?_of_tight hl (hr.append tight_orFalse w) hback hfront .or
      simpa only [Cut.extend, List.append_assoc] using h

/-- An expression or `false` is the truth value of the expression as an operand. If the expression
is itself a disjunction, its right side is evaluated together with `false`. -/
theorem eval_or_false (context : Fields) (hs : Closed s)
    (hw : ∀ c ∈ w, Text.isBlank c = true) (whole : Bool) :
    eval context whole (s ++ w ++ orFalse) = .bool (eval context false s).isTruthy := by
  induction hn : s.length using Nat.strong_induction_on generalizing s whole with
  | _ n ih =>
    have htrim : Text.trim (s ++ w ++ orFalse) = s ++ w ++ orFalse :=
      (hs.toTight.append tight_orFalse w).trim_eq
    rcases split?_or_false hs hw with hsplit | ⟨l, r, hr, hliteral, hsplit, hsplit'⟩
    · have hfalse : eval context false ['f', 'a', 'l', 's', 'e'] = .bool false :=
        eval_of_literal tight_false.trim_eq rfl
      rw [eval_of_split htrim (literal?_or_false _) hsplit, hfalse]
      simp [Operator.apply, Json.isTruthy]
    · have hlength : r.length < n := hn ▸ (length_lt_of_split? hsplit).2
      have hvalue := ih r.length hlength hr false rfl
      rw [eval_of_split htrim (literal?_or_false _) hsplit',
        eval_of_split hs.toTight.trim_eq hliteral hsplit, hvalue]
      rfl

/-! ## Alone and as an operand -/

/-- A path, other than a literal, that leads nowhere. -/
structure Unresolved (context : Fields) (s : List Char) : Prop where
  path : PathText s
  not_literal : literal? s = none
  not_found : Fields.at? context s = none

namespace Unresolved

lemma lookUp_eq (h : Unresolved context s) : lookUp context whole s =
    if whole then .string (String.ofList s) else .null := by
  rw [lookUp, h.not_found]

/-- It stands for its text or for `null`. -/
lemma eval_eq (h : Unresolved context s) : eval context whole s =
    if whole then .string (String.ofList s) else .null := by
  rw [eval_of_none h.path.closed.toTight.trim_eq h.not_literal h.path.split?_eq_none, h.lookUp_eq]

/-- Its text is true: only the empty text and the literal `0` are not. -/
lemma isTruthy_text (h : Unresolved context s) :
    Json.isTruthy (.string (String.ofList s)) = true := by
  have hempty : String.ofList s ≠ "" := by
    intro heq
    exact h.path.ne_nil (by simpa using congrArg String.toList heq)
  have hzero : String.ofList s ≠ "0" := by
    intro heq
    have hs : s = ['0'] := by simpa using congrArg String.toList heq
    have hliteral : (literal? ['0']).isSome = true := rfl
    rw [← hs, h.not_literal] at hliteral
    cases hliteral
  simp [Json.isTruthy, hempty, hzero]

end Unresolved

/-- Any other expression has one value, alone and as an operand. -/
lemma Expression.eval_eq (hs : Expression s) (h : ¬ Unresolved context s) :
    eval context true s = eval context false s := by
  refine eval_eq_of_not_lookUp hs.closed.toTight.trim_eq (fun hliteral hsplit hnone => ?_) false
  cases hs with
  | literal hs =>
    rw [hliteral] at hs
    cases hs
  | path hs => exact h ⟨hs, hliteral, hnone⟩
  | binary hl hr hbefore hafter hblanks =>
    exact hl.split?_binary_ne_none hr hbefore hafter hblanks hsplit

/-- Putting `|| false` behind a trimmed expression. -/
lemma evaluate_or_false {e : String} (he : Expression (Text.trim e.toList)) (context : Fields) :
    evaluate (e ++ " || false") context =
      .bool (eval context false (Text.trim e.toList)).isTruthy := by
  have hclosed := he.closed
  have hblank : ∃ c ∈ e.toList, Text.isBlank c = false := by
    obtain ⟨c, t, htrim, hc⟩ := hclosed.first
    have hmem : c ∈ Text.trim e.toList := htrim ▸ List.mem_cons_self
    exact ⟨c, (Text.infix_trim e.toList).subset hmem, hc⟩
  obtain ⟨front, s, back, htext, hs, hfront, hback⟩ := Text.exists_tight hblank
  have htrim : Text.trim e.toList = s := by rw [htext, hs.trim_between hfront hback]
  have hw : ∀ c ∈ back ++ [' '], Text.isBlank c = true := by
    intro c hc
    rcases List.mem_append.mp hc with hc | hc
    · exact hback c hc
    · exact List.mem_singleton.mp hc ▸ rfl
  have hlong : Text.trim (e ++ " || false").toList = s ++ (back ++ [' ']) ++ orFalse := by
    have hnone : ∀ c ∈ ([] : List Char), Text.isBlank c = true := by simp
    have h := (hs.append tight_orFalse (back ++ [' '])).trim_between hfront hnone
    rw [← h, String.toList_append, htext]
    simp [orFalse, Operator.symbol, falseOperand]
  rw [htrim] at hclosed ⊢
  rw [evaluate, ← eval_trim, hlong, eval_or_false context hclosed hw]

end Expr

namespace Kinds

open Dataflow.Expr

/-! ## Nodes that decide -/

section Nodes

variable {e e' : String} {inputs : Fields}

/-- Two conditions that are both true or both false have the same outcome. -/
lemma runCondition_congr {config config' : Json} (he : readCondition config = .ok e)
    (he' : readCondition config' = .ok e')
    (htruth : (evaluate e' (conditionScope inputs)).isTruthy =
      (evaluate e (conditionScope inputs)).isTruthy) :
    runCondition config' inputs = runCondition config inputs := by
  rw [runCondition, runCondition, readConfig, readConfig, he, he']
  simp only [Except.mapError, bind, Except.bind, htruth]

/-- Two filters whose expressions are both true or both false of each item have the same outcome. -/
lemma transform_filter_congr {c : TransformConfig} (htype : c.type = "filter")
    (he : c.expression = some e)
    (htruth : ∀ items, Fields.primary inputs = .array items → ∀ entry ∈ items.zipIdx,
      (evaluate e' (itemScope inputs entry.1 entry.2)).isTruthy =
        (evaluate e (itemScope inputs entry.1 entry.2)).isTruthy) :
    transform { c with expression := some e' } inputs = transform c inputs := by
  have hfilter : ∀ c : TransformConfig, c.type = "filter" → transform c inputs =
      overItems c (Fields.primary inputs) fun e items => .array (filterItems e inputs items) := by
    intro c htype
    simp only [transform, htype]
  rw [hfilter c htype, hfilter { c with expression := some e' } htype]
  unfold overItems
  split
  · rename_i items hitems
    have hitem : filterItems e' inputs items = filterItems e inputs items := by
      unfold filterItems
      rw [List.filter_congr (htruth items hitems)]
    simp only [TransformConfig.needExpression, he, Except.map, hitem]
  · rfl

end Nodes

/-- A node that decides by the truth of an expression decides the same by the expression with
`|| false` behind it, unless the expression is a path that leads nowhere: alone it stands for its
text, which is true, and as an operand for `null`, which is not. -/
theorem decides_as_operand (e : String) (he : Expression (Text.trim e.toList)) :
    (∀ context, ¬ Unresolved context (Text.trim e.toList) →
      evaluate (e ++ " || false") context = .bool (evaluate e context).isTruthy) ∧
    (∀ context, Unresolved context (Text.trim e.toList) →
      evaluate e context = .string (Text.trimmed e) ∧ (evaluate e context).isTruthy = true ∧
      evaluate (e ++ " || false") context = .bool false) ∧
    (∀ config config' inputs, readCondition config = .ok e →
      readCondition config' = .ok (e ++ " || false") →
      ¬ Unresolved (conditionScope inputs) (Text.trim e.toList) →
      runCondition config' inputs = runCondition config inputs) ∧
    ∀ c inputs, c.type = "filter" → c.expression = some e →
      (∀ items, Fields.primary inputs = .array items → ∀ entry ∈ items.zipIdx,
        ¬ Unresolved (itemScope inputs entry.1 entry.2) (Text.trim e.toList)) →
      transform { c with expression := some (e ++ " || false") } inputs = transform c inputs := by
  have hvalue : ∀ context, ¬ Unresolved context (Text.trim e.toList) →
      evaluate (e ++ " || false") context = .bool (evaluate e context).isTruthy := by
    intro context h
    rw [evaluate_or_false he, ← he.eval_eq h, eval_trim]
    rfl
  have htruth : ∀ context, ¬ Unresolved context (Text.trim e.toList) →
      (evaluate (e ++ " || false") context).isTruthy = (evaluate e context).isTruthy := by
    intro context h
    rw [hvalue context h]
    rfl
  refine ⟨hvalue, fun context h => ?_, ?_, ?_⟩
  · have halone : evaluate e context = .string (Text.trimmed e) := by
      rw [evaluate, ← eval_trim, h.eval_eq]
      rfl
    refine ⟨halone, ?_, ?_⟩
    · rw [halone]
      exact h.isTruthy_text
    · rw [evaluate_or_false he, h.eval_eq]
      rfl
  · intro config config' inputs hconfig hconfig' h
    exact runCondition_congr hconfig hconfig' (htruth _ h)
  · intro c inputs htype hexpression h
    refine transform_filter_congr htype hexpression fun items hitems entry hentry => ?_
    exact htruth _ (h items hitems entry hentry)

/-- The condition `item` and the filter `item`, where `item` is an input or not. -/
theorem decides_as_operand_item :
    let s := Text.trim "item".toList
    let inputs : Fields := [("input", .array [.bool true, .bool false]), ("item", .bool true)]
    let config : Json := .object [("condition", .string "item")]
    let config' : Json := .object [("condition", .string ("item" ++ " || false"))]
    let c : TransformConfig := ⟨"filter", none, none, some "item", none⟩
    Expression s ∧ ¬ Unresolved inputs s ∧ Unresolved [] s ∧
      evaluate ("item" ++ " || false") inputs = .bool (evaluate "item" inputs).isTruthy ∧
      evaluate ("item" ++ " || false") [] = .bool false ∧
      runCondition config' inputs = runCondition config inputs ∧
      transform { c with expression := some ("item" ++ " || false") } inputs =
        transform c inputs := by
  intro s inputs config config' c
  have hpath : PathText s := by decide
  have hparse : Path.parse s = some [.key "item"] := by decide +kernel
  have hfound : ∀ context v, Keyed.value? context "item" = some v → ¬ Unresolved context s := by
    intro context v hv h
    have hnone := h.not_found
    rw [Fields.at?, hparse] at hnone
    simp only [hv, Option.bind_some] at hnone
    cases hnone
  have hunresolved : Unresolved [] s := ⟨hpath, rfl, Fields.at?_nil s⟩
  obtain ⟨hvalue, hlost, hcondition, hfilter⟩ := decides_as_operand "item" (.path hpath)
  have hinputs : ¬ Unresolved inputs s := hfound inputs (.bool true) rfl
  have hscope : ¬ Unresolved (conditionScope inputs) s := hfound _ (.bool true) rfl
  refine ⟨.path hpath, hinputs, hunresolved, hvalue inputs hinputs, (hlost [] hunresolved).2.2,
    hcondition config config' inputs rfl rfl hscope, hfilter c inputs rfl rfl ?_⟩
  intro items _ entry _
  refine hfound _ entry.1 ?_
  rw [itemScope, Keyed.value?_put, if_neg (by decide), Keyed.value?_put, if_pos rfl]

/-- A path that leads nowhere is true alone and false as an operand. -/
theorem unresolved_path_decides_otherwise :
    Expression "foo".toList ∧ (evaluate "foo" []).isTruthy = true ∧
      (evaluate ("foo" ++ " || false") []).isTruthy = false := by
  have hpath : PathText "foo".toList := by decide
  have h : Unresolved [] "foo".toList := ⟨hpath, rfl, Fields.at?_nil _⟩
  have hexpression : Expression (Text.trim "foo".toList) := .path hpath
  refine ⟨.path hpath, ?_, ?_⟩
  · rw [evaluate, h.eval_eq]
    exact h.isTruthy_text
  · have htrim : Text.trim "foo".toList = "foo".toList := hpath.closed.toTight.trim_eq
    rw [evaluate_or_false hexpression, htrim, h.eval_eq]
    rfl

end Kinds

end Dataflow
