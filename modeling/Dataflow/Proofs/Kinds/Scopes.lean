import Dataflow.Kinds.Decision
import Dataflow.Kinds.Transform
import Dataflow.Proofs.Expr.Evaluation
import Dataflow.Proofs.Path.Keys
import Dataflow.Proofs.Run.Gathering

/-!
# The names in an expression

An expression is taken apart into pieces of its text, and a name is looked up only where it stands
in such a piece. So the value of an expression depends on the values of the names in its text and on
nothing else (`Expr.evaluate_congr`).

The expression of a node reads its inputs, so wiring one more handle into the node changes the value
of the expression only if the name of the handle stands in it (`Kinds.evaluate_mentioned`). There is
one exception: a condition without an input called `input` knows the object of all its inputs by
this name.
-/

namespace Dataflow

namespace Expr

variable {context context' : Fields} {e : String} {s : List Char}

/-- The name stands in the text of the expression. -/
def Mentions (e name : String) : Prop := name.toList <:+: e.toList

instance (e name : String) : Decidable (Mentions e name) := by
  unfold Mentions
  infer_instance

/-- Two collections of named values agree on the names in a text. -/
def Agree (s : List Char) (context context' : Fields) : Prop :=
  ∀ name : String, name.toList <:+: s → Keyed.value? context name = Keyed.value? context' name

/-- They agree on the names in each of its pieces. -/
lemma Agree.piece {t : List Char} (h : Agree s context context') (ht : t <:+: s) :
    Agree t context context' := by
  intro name hname
  exact h name (hname.trans ht)

/-- A text has the same value among two collections that agree on the names in it. -/
lemma eval_congr (whole : Bool) (h : Agree s context context') :
    eval context whole s = eval context' whole s := by
  have htrim := Text.infix_trim s
  fun_induction eval context whole s with
  | case1 whole s text v hliteral => rw [eval_of_literal rfl hliteral]
  | case2 whole s text hliteral cut hsplit hlt hle ihleft ihright =>
    obtain ⟨hleft, hright⟩ := infix_of_split? hsplit
    rw [eval_of_split rfl hliteral hsplit,
      ihleft (h.piece (hleft.trans htrim)) (Text.infix_trim _),
      ihright (h.piece (hright.trans htrim)) (Text.infix_trim _)]
  | case3 whole s text hliteral hsplit =>
    rw [eval_of_none rfl hliteral hsplit, lookUp, lookUp, Fields.at?_congr (h.piece htrim)]

/-- An expression has the same value among two collections that agree on the names in it. -/
lemma evaluate_congr (h : ∀ name, Mentions e name →
    Keyed.value? context name = Keyed.value? context' name) :
    evaluate e context = evaluate e context' :=
  eval_congr true h

end Expr

/-! ## One more handle -/

/-- The graph without the edges into a handle of a node. -/
def Graph.unwired (g : Graph) (id handle : String) : Graph :=
  { g with edges := g.edges.filter fun edge => !(edge.target == id && edge.targetHandle == handle) }

/-- The edges into a handle matter for what the node gathers there, and nowhere else. -/
lemma Graph.value?_gather_unwired (g : Graph) (id : String) (outputs seeds : Fields)
    {handle name : String} (hname : name ≠ handle) :
    Keyed.value? ((g.unwired id handle).gather id outputs seeds) name =
      Keyed.value? (g.gather id outputs seeds) name := by
  have hedges : ((g.unwired id handle).incoming id).filter (fun e => e.targetHandle == name) =
      (g.incoming id).filter fun e => e.targetHandle == name := by
    by_cases hid : id ∈ g.ids
    · rw [incoming_of_mem hid, incoming_of_mem (g := g.unwired id handle) hid, unwired,
        List.filter_filter, List.filter_filter, List.filter_filter]
      refine List.filter_congr fun edge _ => ?_
      by_cases hedge : edge.targetHandle = name
      · simp [hedge, hname]
      · simp [hedge]
    · rw [incoming_of_not_mem hid, incoming_of_not_mem (g := g.unwired id handle) hid]
  rw [value?_gather, value?_gather, hedges]

namespace Kinds

section Scopes

variable {e : String} {inputs inputs' : Fields}

/-- In a condition a name stands for the input of this name, and `input` for the primary input if
there is no such one. -/
lemma value?_conditionScope (hsorted : Keyed.Sorted inputs) (name : String) :
    Keyed.value? (conditionScope inputs) name = (Keyed.value? inputs name).or
      (if name = "input" then some (Fields.primary inputs) else none) := by
  rw [conditionScope, Keyed.value?_putAll_of_nodup hsorted.nodup]
  congr 1
  by_cases hname : name = "input"
  · simp [hname, Keyed.value?]
  · simp [hname, Keyed.value?, List.lookup_cons, beq_false_of_ne hname]

/-- An item has the same scope up to the inputs that an expression does not mention. -/
lemma value?_itemScope_congr {name : String}
    (h : Keyed.value? inputs name = Keyed.value? inputs' name) (item : Json) (index : ℕ) :
    Keyed.value? (itemScope inputs item index) name =
      Keyed.value? (itemScope inputs' item index) name := by
  unfold itemScope
  rw [Keyed.value?_put, Keyed.value?_put, Keyed.value?_put, Keyed.value?_put, h]

/-- Inputs that agree on the names in an expression are the same to the nodes that take a list apart
by it. -/
lemma items_congr (h : ∀ name, Expr.Mentions e name →
    Keyed.value? inputs name = Keyed.value? inputs' name) (items : List Json) :
    mapItems e inputs items = mapItems e inputs' items ∧
      filterItems e inputs items = filterItems e inputs' items ∧
      ∀ initial, reduceItems e inputs initial items = reduceItems e inputs' initial items := by
  have hitem : ∀ item index, evaluate e (itemScope inputs item index) =
      evaluate e (itemScope inputs' item index) := by
    intro item index
    apply Expr.evaluate_congr
    intro name hname
    exact value?_itemScope_congr (h name hname) item index
  have hacc : ∀ item index acc, evaluate e (Keyed.put (itemScope inputs item index) "acc" acc) =
      evaluate e (Keyed.put (itemScope inputs' item index) "acc" acc) := by
    intro item index acc
    apply Expr.evaluate_congr
    intro name hname
    rw [Keyed.value?_put, Keyed.value?_put, value?_itemScope_congr (h name hname)]
  refine ⟨?_, ?_, fun initial => ?_⟩
  · simp only [mapItems, hitem]
  · simp only [filterItems, hitem]
  · simp only [reduceItems, hacc]

/-- Inputs that agree on the names in a condition are the same to it, provided that `input` is the
name of an input or does not stand in the condition. -/
lemma condition_congr (hsorted : Keyed.Sorted inputs) (hsorted' : Keyed.Sorted inputs')
    (h : ∀ name, Expr.Mentions e name → Keyed.value? inputs name = Keyed.value? inputs' name)
    (hinput : Expr.Mentions e "input" → Keyed.hasKey inputs "input") :
    evaluate e (conditionScope inputs) = evaluate e (conditionScope inputs') := by
  apply Expr.evaluate_congr
  intro name hname
  rw [value?_conditionScope hsorted, value?_conditionScope hsorted', ← h name hname]
  by_cases heq : name = "input"
  · subst heq
    obtain ⟨v, hv⟩ := Option.isSome_iff_exists.mp (hinput hname)
    rw [hv, Option.some_or, Option.some_or]
  · rw [if_neg heq, if_neg heq]

end Scopes

/-- The value of an expression depends only on the values of the names in its text. So one more
handle of a node changes nothing for an expression that does not contain its name: neither for the
expression of a code node nor for those that are evaluated item by item, nor for a condition whose
node has an input called `input` or that does not contain this name. If a condition has no such
input, `input` stands for the object of all inputs in it. -/
theorem evaluate_mentioned (e : String) :
    (∀ context context' : Fields, (∀ name, Expr.Mentions e name →
      Keyed.value? context name = Keyed.value? context' name) →
        evaluate e context = evaluate e context') ∧
    ∀ (g : Graph) (id handle : String) (outputs seeds : Fields), ¬ Expr.Mentions e handle →
      let inputs := (g.unwired id handle).gather id outputs seeds
      let inputs' := g.gather id outputs seeds
      (∀ config c, CodeConfig.ofJson config = .ok c → c.code = e →
        runCode config inputs = runCode config inputs') ∧
      (∀ items, mapItems e inputs items = mapItems e inputs' items ∧
        filterItems e inputs items = filterItems e inputs' items ∧
        ∀ initial, reduceItems e inputs initial items = reduceItems e inputs' initial items) ∧
      ((Expr.Mentions e "input" → Keyed.hasKey inputs "input") →
        evaluate e (conditionScope inputs) = evaluate e (conditionScope inputs')) ∧
      (Keyed.hasKey inputs' "input" = false →
        Keyed.value? (conditionScope inputs') "input" = some (.object inputs')) := by
  refine ⟨fun context context' h => Expr.evaluate_congr h, ?_⟩
  intro g id handle outputs seeds hhandle inputs inputs'
  have hsorted : Keyed.Sorted inputs := Graph.sorted_gather _ id outputs seeds
  have hsorted' : Keyed.Sorted inputs' := g.sorted_gather id outputs seeds
  have hagree : ∀ name, Expr.Mentions e name →
      Keyed.value? inputs name = Keyed.value? inputs' name := by
    intro name hname
    apply g.value?_gather_unwired id outputs seeds
    rintro rfl
    exact hhandle hname
  refine ⟨?_, items_congr hagree, condition_congr hsorted hsorted' hagree, fun hnone => ?_⟩
  · intro config c hconfig hcode
    rw [runCode, runCode, readConfig, hconfig]
    simp only [← hcode] at hagree
    simp only [Except.mapError, bind, Except.bind, Expr.evaluate_congr hagree]
  · have hvalue : Keyed.value? inputs' "input" = none := Option.isNone_iff_eq_none.mp (by
      simpa [Keyed.hasKey] using hnone)
    rw [value?_conditionScope hsorted', hvalue, Option.none_or, if_pos rfl, Fields.primary,
      Fields.present?, hvalue]
    rfl

/-- A condition on two handles, with a third one wired into its node. -/
theorem evaluate_mentioned_third_handle :
    let e := "a[0] > input.n"
    let g : Graph := ⟨["c"], [⟨"x", "c", "output", "a"⟩, ⟨"x", "c", "output", "input"⟩,
      ⟨"x", "c", "output", "b"⟩]⟩
    let seeds : Fields := [("x", .array [.bool true])]
    let inputs := (g.unwired "c" "b").gather "c" [] seeds
    let inputs' := g.gather "c" [] seeds
    ¬ Expr.Mentions e "b" ∧ Keyed.hasKey inputs "input" ∧
      (∀ name, Expr.Mentions e name →
        Keyed.value? inputs name = Keyed.value? (Keyed.put inputs "b" .null) name) ∧
      evaluate e inputs = evaluate e (Keyed.put inputs "b" .null) ∧
      inputs ≠ inputs' ∧
      evaluate e (conditionScope inputs) = evaluate e (conditionScope inputs') := by
  intro e g seeds inputs inputs'
  have hb : ¬ Expr.Mentions e "b" := by decide
  have hinput : Keyed.hasKey inputs "input" := rfl
  have hagree : ∀ name, Expr.Mentions e name →
      Keyed.value? inputs name = Keyed.value? (Keyed.put inputs "b" .null) name := by
    intro name hname
    have hne : name ≠ "b" := by
      rintro rfl
      exact hb hname
    rw [Keyed.value?_put, if_neg hne]
  obtain ⟨hcongr, hwired⟩ := evaluate_mentioned e
  obtain ⟨-, -, hcondition, -⟩ := hwired g "c" "b" [] seeds hb
  refine ⟨hb, hinput, hagree, hcongr _ _ hagree, ?_, hcondition fun _ => hinput⟩
  intro heq
  have hlength : inputs.length = inputs'.length := congrArg List.length heq
  cases hlength

/-- A condition that contains the name of no input but the word `input`: a handle more makes it
true. -/
theorem condition_of_all_inputs :
    let g : Graph := ⟨["c"], [⟨"x", "c", "output", "b"⟩]⟩
    let seeds : Fields := [("x", .null)]
    let inputs := (g.unwired "c" "b").gather "c" [] seeds
    let inputs' := g.gather "c" [] seeds
    ¬ Expr.Mentions "input" "b" ∧
      evaluate "input" (conditionScope inputs) = .object [] ∧
      evaluate "input" (conditionScope inputs') = .object [("b", .null)] ∧
      (evaluate "input" (conditionScope inputs)).isTruthy = false ∧
      (evaluate "input" (conditionScope inputs')).isTruthy = true := by
  intro g seeds inputs inputs'
  have hinput : ∀ scope, evaluate "input" scope = Expr.lookUp scope true "input".toList :=
    fun scope => Expr.eval_of_none rfl rfl (by decide +kernel)
  have hbefore : evaluate "input" (conditionScope inputs) = .object [] := by
    rw [hinput]
    cbv
  have hafter : evaluate "input" (conditionScope inputs') = .object [("b", .null)] := by
    rw [hinput]
    cbv
  exact ⟨by decide, hbefore, hafter, by rw [hbefore]; rfl, by rw [hafter]; rfl⟩

end Kinds

end Dataflow
