import Dataflow.Proofs.Run.Consistency
import Dataflow.Proofs.Run.Gathering
import Dataflow.Proofs.Run.Limit
import Dataflow.Proofs.Run.Shapes
import Dataflow.Proofs.Workflow.Validity

/-!
# The order of declaration

The nodes of a workflow may be listed in another order, and its edges, too, as long as those into
one handle keep theirs (`Workflow.Reordered`). The runs of both may visit the nodes in quite
different orders, and if they fail, they may fail at different nodes. Yet both solve the same
equations, and a workflow whose equations have a solution cannot fail: along its own order, every
node gathers what it would from the solution, and so yields its value in the solution
(`Engine.Consistent.visit_eq`).
-/

namespace Dataflow

variable {σ : Type}

namespace Workflow

variable {w w' : Workflow} {id : String} {edge : Edge} {outputs seeds : Fields}

/-- `w'` declares the nodes and edges of `w` in another order; edges into the same handle keep their
order among each other. -/
structure Reordered (w w' : Workflow) : Prop where
  nodes : w'.nodes.Perm w.nodes
  edges : ∀ handle : String × String,
    (w'.edges.filter fun e => (e.target, e.targetHandle) == handle) =
      w.edges.filter fun e => (e.target, e.targetHandle) == handle

namespace Reordered

lemma symm (hw : w.Reordered w') : w'.Reordered w where
  nodes := hw.nodes.symm
  edges := fun handle => (hw.edges handle).symm

lemma mem_ids (hw : w.Reordered w') : id ∈ w'.ids ↔ id ∈ w.ids := (hw.nodes.map Node.id).mem_iff

/-- The edges are a permutation of each other. -/
lemma edges_perm (hw : w.Reordered w') : w'.edges.Perm w.edges := by
  refine List.perm_iff_count.mpr fun edge => ?_
  have hcount : ∀ edges : List Edge, (edges.filter fun e =>
      (e.target, e.targetHandle) == (edge.target, edge.targetHandle)).count edge =
        edges.count edge := by
    intro edges
    exact List.count_filter (by simp)
  rw [← hcount w'.edges, hw.edges, hcount w.edges]

/-- The arcs between the nodes are the same. -/
lemma arc_eq (hw : w.Reordered w') : (Graph.ofWorkflow w').Arc = (Graph.ofWorkflow w).Arc := by
  funext u v
  refine propext (and_congr hw.mem_ids (and_congr hw.mem_ids (exists_congr fun edge => ?_)))
  exact and_congr_left fun _ => hw.edges_perm.mem_iff

/-- Both are valid or neither. -/
lemma valid (hw : w.Reordered w') (hvalid : w.Valid) : w'.Valid where
  nodes := fun hnil => hvalid.nodes (List.Perm.nil_eq (hnil ▸ hw.nodes)).symm
  ids := fun n hn => hvalid.ids n (hw.nodes.mem_iff.mp hn)
  types := fun n hn => hvalid.types n (hw.nodes.mem_iff.mp hn)
  distinct := (hw.nodes.map Node.id).nodup_iff.mpr hvalid.distinct
  acyclic := by
    rw [Graph.Cyclic, hw.arc_eq]
    exact hvalid.acyclic

/-- A node gathers the same in both. -/
lemma gather_eq (hw : w.Reordered w') (id : String) (outputs seeds : Fields) :
    (Graph.ofWorkflow w').gather id outputs seeds =
      (Graph.ofWorkflow w).gather id outputs seeds := by
  have hsplit : ∀ (edges : List Edge) (handle : String),
      ((edges.filter fun e => e.target == id).filter fun e => e.targetHandle == handle) =
        edges.filter fun e => (e.target, e.targetHandle) == (id, handle) := by
    intro edges handle
    rw [List.filter_filter]
    exact List.filter_congr fun e _ => Bool.and_comm _ _
  refine Graph.gather_congr_handles fun handle => ?_
  have hcontains : (Graph.ofWorkflow w').contains id = (Graph.ofWorkflow w).contains id := by
    rw [Bool.eq_iff_iff, Graph.contains_iff_mem, Graph.contains_iff_mem]
    exact hw.mem_ids
  rw [Graph.incoming, Graph.incoming, hcontains]
  split
  · exact (hsplit _ _).trans ((hw.edges (id, handle)).trans (hsplit _ _).symm)
  · rfl

/-- The results are the same if the values are, as long as there is an output node. -/
lemma collect_eq (hw : w.Reordered w') {values : Fields} (hvalues : Keyed.Sorted values)
    (houtput : ∃ n ∈ w.nodes, n.type = "output") (order order' : List String) :
    w'.collect order' values = w.collect order values := by
  have hmem : ∀ id, id ∈ w'.outputIds ↔ id ∈ w.outputIds :=
    fun id => ((hw.nodes.filter _).map Node.id).mem_iff
  have hne : w.outputIds ≠ [] := by
    obtain ⟨n, hn, htype⟩ := houtput
    have hkind : (n.kind == .output) = true := by
      rw [Node.kind, htype]
      rfl
    exact List.ne_nil_of_mem (List.mem_map_of_mem (List.mem_filter.mpr ⟨hn, hkind⟩))
  have hne' : w'.outputIds ≠ [] := by
    obtain ⟨id, hid⟩ := List.exists_mem_of_ne_nil _ hne
    exact List.ne_nil_of_mem ((hmem id).mpr hid)
  rw [collect_eq_filter hvalues hne, collect_eq_filter hvalues hne']
  refine List.filter_congr fun entry _ => ?_
  rw [Bool.eq_iff_iff, List.contains_iff_mem, List.contains_iff_mem]
  exact hmem entry.1

end Reordered

end Workflow

namespace Engine

variable {e : Engine σ} {w w' : Workflow} {seeds values : Fields} {state : σ} {order : List String}
  {h : History σ}

/-- A solution for a workflow is one for a reordered one. -/
lemma Consistent.reordered (hvalues : e.Consistent w seeds values) (hw : w.Reordered w') :
    e.Consistent w' seeds values where
  sorted := hvalues.sorted
  keys := fun id => (hvalues.keys id).trans hw.mem_ids.symm
  value := fun n hn => by
    rw [hw.gather_eq]
    exact hvalues.value n (hw.nodes.mem_iff.mp hn)

/-- If the equations of a workflow have a solution, every node that is visited in an unhurried run
yields its value in the solution. -/
lemma Consistent.visit_eq (hvalues : e.Consistent w seeds values)
    (hunhurried : e.Unhurried w seeds state) (hrun : e.run w seeds state = .started order h) :
    ∀ v ∈ h.visits, ∃ output, v.outcome = .ok output ∧
      Keyed.value? values v.node.id = some output.data := by
  obtain ⟨hplan, hwalked⟩ := walked_of_run hrun
  obtain ⟨-, hordered⟩ := Workflow.perm_and_ordered_of_plan hplan
  obtain ⟨houtcome, -⟩ := hunhurried.outcome_eq hrun
  -- by induction along the order, for the visit to the node with the given identifier
  have hall : ∀ id ∈ order, ∀ v ∈ h.visits, v.node.id = id → ∃ output, v.outcome = .ok output ∧
      Keyed.value? values v.node.id = some output.data := by
    refine hordered.induction fun id hid ih v hv hnode => ?_
    subst hnode
    have hnodes : v.node ∈ w.nodes := (Workflow.mem_planned hplan).mp
      (hwalked.prefix_of_visits.subset (List.mem_map_of_mem hv))
    have hgather : v.inputs = (Graph.ofWorkflow w).gather v.node.id values seeds := by
      rw [inputs_eq_gather_outputs hrun hv]
      refine Graph.gather_congr_arcs (fun u harc => ?_) fun u hu => ?_
      · obtain ⟨before, after, hvisits⟩ := List.append_of_mem hv
        obtain ⟨v', hbefore, rfl⟩ := List.mem_map.mp (mem_before_of_arc hrun hvisits harc)
        have hv' : v' ∈ h.visits := hvisits ▸ List.mem_append_left _ hbefore
        obtain ⟨output, hok, hvalue⟩ := ih v'.node.id harc v' hv' rfl
        rw [hvalue, History.value?_outputs (nodup_of_run hrun) hv' hok]
      · rw [hvalues.value?_eq_none hu, ← Option.not_isSome_iff_eq_none]
        exact fun hkey => hu (mem_ids_of_hasKey hrun hkey)
    obtain ⟨output, ⟨handler, hhandler, hyields⟩, hvalue⟩ := hvalues.value v.node hnodes
    obtain ⟨state', heq⟩ := houtcome v hv handler hhandler
    exact ⟨output, by rw [heq, hgather, hyields state'], hvalue⟩
  intro v hv
  exact hall v.node.id ((prefix_of_run hrun).subset (List.mem_map_of_mem hv)) v hv rfl

/-- If the equations of a workflow have a solution, an unhurried run is completed. -/
lemma Consistent.ending_eq (hvalues : e.Consistent w seeds values)
    (hunhurried : e.Unhurried w seeds state) (hrun : e.run w seeds state = .started order h) :
    h.ending = .completed := by
  obtain ⟨-, hwalked⟩ := walked_of_run hrun
  rcases hwalked.shape with hshape | ⟨k, hshape⟩ | ⟨k, hshape⟩
  · exact hshape.ending
  · obtain ⟨v, error, hv, herror, -⟩ := hshape.failed
    obtain ⟨output, hok, -⟩ := hvalues.visit_eq hunhurried hrun v (List.mem_of_getElem? hv)
    rw [herror] at hok
    cases hok
  · obtain ⟨n, elapsed, limit, -, hending⟩ := hshape.stopped
    exact absurd hending ((hunhurried.outcome_eq hrun).2 _ _)

/-! ## The main result -/

/-- If a workflow completes, so does a reordered one, with the same values. -/
lemma completed_of_reordered (he : e.Stateless) (hw : w.Reordered w') {state state' : σ}
    (hunhurried' : e.Unhurried w' seeds state')
    (hstatus : ((e.run w seeds state).report w seeds).status = .completed) :
    let r := (e.run w seeds state).report w seeds
    let r' := (e.run w' seeds state').report w' seeds
    r'.status = .completed ∧ r'.allOutputs = r.allOutputs ∧
      ((∃ n ∈ w.nodes, n.type = "output") → r'.outputs = r.outputs) := by
  obtain ⟨order, h, hrun, hending⟩ := Run.exists_of_completed hstatus
  obtain ⟨hplan, -⟩ := walked_of_run hrun
  obtain ⟨order', hplan'⟩ :=
    Workflow.exists_plan_iff_valid.mpr (hw.valid (Workflow.exists_plan_iff_valid.mp ⟨order, hplan⟩))
  obtain ⟨h', hrun'⟩ := e.exists_run_of_plan hplan' seeds state'
  -- the values of the first run solve the equations of both workflows
  have hvalues : e.Consistent w' seeds h.outputs :=
    (consistent_outputs he hrun hending).reordered hw
  have hending' : h'.ending = .completed := hvalues.ending_eq hunhurried' hrun'
  have hsame : h'.outputs = h.outputs :=
    (consistent_outputs he hrun' hending').eq hplan' state' hvalues
  obtain ⟨-, houtputs, -⟩ := Run.report_completed w seeds order hending
  obtain ⟨hcompleted', houtputs', -⟩ := Run.report_completed w' seeds order' hending'
  rw [hrun, hrun']
  refine ⟨hcompleted', ?_, fun houtput => ?_⟩
  · rw [(Run.report_started w' seeds order' h').1, (Run.report_started w seeds order h).1, hsame]
  · rw [houtputs', houtputs, hsame, hw.collect_eq h.sorted_outputs houtput]

/-- As long as the limit is never reached, the order of declaration makes no difference: a workflow
completes if and only if a reordered one does, and then the values of all nodes are the same. So
are the results if there is an output node; otherwise the result is that of the node that was run
last, which may be another one. -/
theorem reordered_run (he : e.Stateless) (hw : w.Reordered w') (seeds : Fields) (state state' : σ)
    (hunhurried : e.Unhurried w seeds state) (hunhurried' : e.Unhurried w' seeds state') :
    let r := (e.run w seeds state).report w seeds
    let r' := (e.run w' seeds state').report w' seeds
    (r.status = .completed ↔ r'.status = .completed) ∧
      (r.status = .completed → r'.allOutputs = r.allOutputs ∧
        ((∃ n ∈ w.nodes, n.type = "output") → r'.outputs = r.outputs)) := by
  intro r r'
  refine ⟨⟨fun hstatus => ?_, fun hstatus => ?_⟩, fun hstatus => ?_⟩
  · exact (completed_of_reordered he hw hunhurried' hstatus).1
  · exact (completed_of_reordered he hw.symm hunhurried hstatus).1
  · exact (completed_of_reordered he hw hunhurried' hstatus).2

/-- Two edges lead into one handle of an output node. They keep their order, the nodes do not, and
neither does the edge into another handle. -/
theorem reordered_run_shared_handle :
    let echo : Handler ℕ := fun config inputs calls =>
      ⟨.ok (.ofData (.ofEntries [("output", config), ("seen", .object inputs)])), 1, calls + 1⟩
    let e : Engine ℕ := ⟨[("echo", ⟨"", echo⟩), ("output", ⟨"", echo⟩)], [],
      fun call calls => .pure (.error (.capabilityUnavailable call.capability)) calls, 1000, true⟩
    let w : Workflow := ⟨none, none,
      [⟨"a", "echo", .string "first"⟩, ⟨"b", "echo", .string "second"⟩, ⟨"out", "output", .null⟩],
      [.between "a" "out", .between "b" "out", ⟨"b", "out", "output", "other"⟩]⟩
    let w' : Workflow := ⟨none, none,
      [⟨"out", "output", .null⟩, ⟨"b", "echo", .string "second"⟩, ⟨"a", "echo", .string "first"⟩],
      [⟨"b", "out", "output", "other"⟩, .between "a" "out", .between "b" "out"]⟩
    let r := (e.run w [] 0).report w []
    let r' := (e.run w' [] 7).report w' []
    w.Reordered w' ∧ e.Stateless ∧ r.order = ["a", "b", "out"] ∧ r'.order = ["b", "a", "out"] ∧
      r.status = .completed ∧ r'.status = .completed ∧ r'.outputs = r.outputs := by
  intro echo e w w' r r'
  have hw : w.Reordered w' := by
    refine ⟨w.nodes.reverse_perm, fun handle => ?_⟩
    by_cases hinput : ("out", "input") = handle
    · subst hinput
      decide
    by_cases hother : ("out", "other") = handle
    · subst hother
      decide
    · simp [w, w', Edge.between, Edge.defaultTargetHandle, hinput, hother]
  have he : e.Stateless := stateless_of_registry (by simp [e, echo]) fun _ _ _ => rfl
  have hagree := reordered_run he hw [] 0 7
    (unhurried_of_finish_lt (by decide)) (unhurried_of_finish_lt (by decide))
  have hstatus : r.status = .completed := by decide
  exact ⟨hw, he, by decide, by decide, hstatus, hagree.1.mp hstatus,
    (hagree.2 hstatus).2 (by decide)⟩

end Engine

end Dataflow
