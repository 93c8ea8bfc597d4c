import Dataflow.Proofs.Run.Outputs

/-!
# Completed runs solve the equations of their workflow

A workflow is a system of equations: the value of every node is what its handler yields on the
inputs gathered from the values of all nodes. A completed run solves it
(`Engine.consistent_outputs`), although it gathers inputs before all values are there. As the
graph has an order, there is no other solution (`Engine.Consistent.eq`). What a node computes may
depend on its type, its configuration and its inputs only (`Engine.Stateless`).
-/

namespace Dataflow

variable {σ : Type}

namespace Engine

variable {e : Engine σ} {w : Workflow} {seeds values values' : Fields} {state : σ}
  {order : List String} {h : History σ}

/-- The outcome of a node does not depend on the state of the services. -/
def Stateless (e : Engine σ) : Prop :=
  ∀ n handler, e.handler? n = some handler → ∀ config inputs state state',
    (handler config inputs state).value = (handler config inputs state').value

/-- An engine is stateless if the handlers of its registry and its carrier are. -/
lemma stateless_of_registry
    (hregistry : ∀ entry ∈ e.registry, ∀ config inputs state state',
      (entry.2.handler config inputs state).value = (entry.2.handler config inputs state').value)
    (hcarrier : ∀ call state state',
      (e.carrier call state).value = (e.carrier call state').value) :
    e.Stateless := by
  intro n handler hhandler config inputs state state'
  rcases of_handler? hhandler with ⟨t, ht, rfl⟩ | ⟨name, -, rfl⟩
  · exact hregistry _ ht config inputs state state'
  · unfold Kinds.runCapability
    split
    · rfl
    · exact congrArg (Except.bind · _) (hcarrier _ state state')

/-- The handler of a node yields the output on the inputs, whatever the state of the services. -/
def Yields (e : Engine σ) (n : Node) (inputs : Fields) (output : Output) : Prop :=
  ∃ handler, e.handler? n = some handler ∧
    ∀ state, (handler n.config inputs state).value = .ok output

/-- Values of the nodes that solve the equations of the workflow: each is what the handler of its
node yields on the inputs gathered from these very values. -/
structure Consistent (e : Engine σ) (w : Workflow) (seeds values : Fields) : Prop where
  sorted : Keyed.Sorted values
  keys : ∀ id, Keyed.hasKey values id ↔ id ∈ w.ids
  value : ∀ n ∈ w.nodes, ∃ output,
    e.Yields n ((Graph.ofWorkflow w).gather n.id values seeds) output ∧
      Keyed.value? values n.id = some output.data

/-! ### A completed run is a solution -/

/-- A completed run visits every node, and each yields its value. -/
lemma exists_visit_of_completed (hrun : e.run w seeds state = .started order h)
    (hending : h.ending = .completed) {n : Node} (hn : n ∈ w.nodes) :
    ∃ v ∈ h.visits, v.node = n ∧ ∃ output, v.outcome = .ok output ∧
      Keyed.value? h.outputs n.id = some output.data := by
  obtain ⟨hplan, hwalked⟩ := walked_of_run hrun
  have hshape := hwalked.completes hending
  have hmem : n ∈ h.visits.map Visit.node := by
    rw [hshape.visited]
    exact (Workflow.mem_planned hplan).mpr hn
  obtain ⟨v, hv, rfl⟩ := List.mem_map.mp hmem
  obtain ⟨output, hok⟩ := hshape.succeeded v hv
  exact ⟨v, hv, rfl, output, hok, History.value?_outputs (nodup_of_run hrun) hv hok⟩

/-- The values of a completed run solve the equations. -/
lemma consistent_outputs (he : e.Stateless) (hrun : e.run w seeds state = .started order h)
    (hending : h.ending = .completed) : e.Consistent w seeds h.outputs where
  sorted := h.sorted_outputs
  keys := fun id => by
    refine ⟨mem_ids_of_hasKey hrun, fun hid => ?_⟩
    obtain ⟨n, hn, rfl⟩ := List.mem_map.mp hid
    obtain ⟨v, -, -, output, -, hvalue⟩ := exists_visit_of_completed hrun hending hn
    rw [Keyed.hasKey, hvalue]
    rfl
  value := fun n hn => by
    obtain ⟨v, hv, rfl, output, hok, hvalue⟩ := exists_visit_of_completed hrun hending hn
    obtain ⟨-, hwalked⟩ := walked_of_run hrun
    obtain ⟨state, state', hvisit⟩ := hwalked.visit_eq hv
    obtain ⟨-, handler, hhandler, hyields⟩ := exists_handler_of_ok hvisit hok
    rw [inputs_eq_gather_outputs hrun hv] at hyields
    exact ⟨output, ⟨handler, hhandler, fun state' =>
      (he v.node handler hhandler _ _ state' state).trans hyields⟩, hvalue⟩

/-! ### There is no other solution -/

/-- A handler yields one output. -/
lemma Yields.unique {n : Node} {inputs : Fields} {output output' : Output}
    (h : e.Yields n inputs output) (h' : e.Yields n inputs output') (state : σ) :
    output = output' := by
  obtain ⟨handler, hhandler, hyields⟩ := h
  obtain ⟨handler', hhandler', hyields'⟩ := h'
  obtain rfl : handler = handler' := Option.some.inj (hhandler.symm.trans hhandler')
  exact Except.ok.inj ((hyields state).symm.trans (hyields' state))

/-- Only nodes have a value in a solution. -/
lemma Consistent.value?_eq_none (hvalues : e.Consistent w seeds values) {id : String}
    (hid : id ∉ w.ids) : Keyed.value? values id = none := by
  rw [← Option.not_isSome_iff_eq_none]
  exact fun hkey => hid ((hvalues.keys id).mp hkey)

/-- Two solutions are equal. Along the order, the nodes from which edges lead to a node have the
same values in both, so that the node gathers the same inputs in both. -/
lemma Consistent.eq (hplan : w.plan = .ok order) (state : σ)
    (hvalues : e.Consistent w seeds values) (hvalues' : e.Consistent w seeds values') :
    values = values' := by
  obtain ⟨hperm, hordered⟩ := Workflow.perm_and_ordered_of_plan hplan
  have hnodes : ∀ id ∈ order, Keyed.value? values id = Keyed.value? values' id := by
    refine hordered.induction fun id hid ih => ?_
    obtain ⟨n, hn, rfl⟩ := List.mem_map.mp (hperm.mem_iff.mp hid)
    have hgather : (Graph.ofWorkflow w).gather n.id values seeds =
        (Graph.ofWorkflow w).gather n.id values' seeds :=
      Graph.gather_congr_arcs ih fun u hu => by
        rw [hvalues.value?_eq_none hu, hvalues'.value?_eq_none hu]
    obtain ⟨output, hyields, hvalue⟩ := hvalues.value n hn
    obtain ⟨output', hyields', hvalue'⟩ := hvalues'.value n hn
    rw [hgather] at hyields
    rw [hvalue, hvalue', hyields.unique hyields' state]
  refine hvalues.sorted.ext hvalues'.sorted fun id => ?_
  by_cases hid : id ∈ w.ids
  · exact hnodes id (hperm.mem_iff.mpr hid)
  · rw [hvalues.value?_eq_none hid, hvalues'.value?_eq_none hid]

/-! ### The main result -/

/-- A completed run yields the one solution of the equations of its workflow, every node it ran was
given what it would gather from that solution, and an edge from a node carries the value that this
node yielded, whatever the seeds. -/
theorem completed_run_solves (he : e.Stateless) (w : Workflow) (seeds : Fields) (state : σ)
    (hstatus : ((e.run w seeds state).report w seeds).status = .completed) :
    let run := e.run w seeds state
    let values := (run.report w seeds).allOutputs
    e.Consistent w seeds values ∧ (∀ values', e.Consistent w seeds values' → values' = values) ∧
      (∀ v ∈ run.visits, v.inputs = (Graph.ofWorkflow w).gather v.node.id values seeds) ∧
      ∀ edge ∈ w.edges, edge.source ∈ w.ids → ∃ v ∈ run.visits, v.node.id = edge.source ∧
        ∃ output, v.outcome = .ok output ∧
          ∀ seeds', edge.source? values seeds' = some output.data := by
  intro run values
  obtain ⟨order, h, hrun, hending⟩ := Run.exists_of_completed hstatus
  have hvalues : values = h.outputs := by
    simp only [values, run, hrun]
    exact (Run.report_started w seeds order h).1
  have hvisits : run.visits = h.visits := congrArg Run.visits hrun
  obtain ⟨hplan, -⟩ := walked_of_run hrun
  have hconsistent := consistent_outputs he hrun hending
  rw [hvalues, hvisits]
  refine ⟨hconsistent, fun values' h' => h'.eq hplan state hconsistent,
    fun v hv => inputs_eq_gather_outputs hrun hv, fun edge _ hsource => ?_⟩
  obtain ⟨n, hn, hid⟩ := List.mem_map.mp hsource
  obtain ⟨v, hv, rfl, output, hok, hvalue⟩ := exists_visit_of_completed hrun hending hn
  refine ⟨v, hv, hid, output, hok, fun seeds' => ?_⟩
  rw [Edge.source?, ← hid, hvalue, Option.some_or]

/-- A node that reads from another one whose name is also that of a seed. -/
theorem completed_run_solves_shadowed_seed :
    let echo : Handler ℕ := fun config inputs calls =>
      ⟨.ok (.ofData (.ofEntries [("output", config), ("seen", .object inputs)])), 1, calls + 1⟩
    let e : Engine ℕ := ⟨[("echo", ⟨"", echo⟩)], [],
      fun call calls => .pure (.error (.capabilityUnavailable call.capability)) calls, 1000, true⟩
    let w : Workflow := ⟨none, none, [⟨"b", "echo", .null⟩, ⟨"a", "echo", .string "own"⟩],
      [.between "a" "b"]⟩
    let seeds : Fields := [("a", .string "seed")]
    let values := ((e.run w seeds 0).report w seeds).allOutputs
    e.Stateless ∧ ((e.run w seeds 0).report w seeds).status = .completed ∧
      e.Consistent w seeds values ∧ Keyed.value? values "b" =
        some (.object [("output", .null), ("seen", .object [("input", .string "own")])]) := by
  refine ⟨?_, by decide, ?_, rfl⟩
  · exact stateless_of_registry (by simp) fun _ _ _ => rfl
  · exact (completed_run_solves (stateless_of_registry (by simp) fun _ _ _ => rfl) _ _ 0
      (by decide)).1

end Engine

end Dataflow
