import Dataflow.Run.Standard
import Dataflow.Proofs.Run.Walk
import Dataflow.Proofs.Workflow.Plan

/-!
# The outputs of a run

The outputs of a history are the values of the nodes that were run to their end
(`History.value?_outputs`). A node gathers its inputs when only the nodes before it have values;
as the sources of its edges stand before it in the plan, it would gather the same from the outputs
of the whole run (`Engine.inputs_eq_gather_outputs`).
-/

namespace Dataflow

variable {σ : Type}

namespace Visit

variable {v : Visit} {visits : List Visit} {id : String}

/-- A node yields its value under its identifier. -/
lemma yield?_eq_some_iff {x : Json} :
    v.yield? = some (id, x) ↔
      v.node.id = id ∧ ∃ output, v.outcome = .ok output ∧ output.data = x := by
  rw [yield?]
  cases v.outcome with
  | ok output => simp
  | error error => simp

/-- What is yielded is listed in the order of the visits. -/
lemma sublist_map_fst_yield? (visits : List Visit) :
    ((visits.filterMap yield?).map Prod.fst).Sublist (visits.map fun v => v.node.id) := by
  induction visits with
  | nil => exact List.Sublist.slnil
  | cons v visits ih =>
    cases hyield : v.yield? with
    | none =>
      rw [List.filterMap_cons_none hyield, List.map_cons]
      exact ih.cons _
    | some entry =>
      obtain ⟨id, x⟩ := entry
      rw [List.filterMap_cons_some hyield, List.map_cons, List.map_cons,
        (yield?_eq_some_iff.mp hyield).1]
      exact ih.cons_cons _

/-- Exactly the nodes that were run to their end yield a value. -/
lemma hasKey_yields (visits : List Visit) (id : String) :
    Keyed.hasKey (Keyed.ofEntries (visits.filterMap yield?)) id ↔
      ∃ v ∈ visits, v.node.id = id ∧ v.Succeeded := by
  rw [Keyed.hasKey, Keyed.ofEntries, Keyed.isSome_value?_putAll]
  constructor
  · rintro (hid | hid)
    · obtain ⟨⟨key, x⟩, hentry, rfl⟩ := List.mem_map.mp hid
      obtain ⟨v, hv, hyield⟩ := List.mem_filterMap.mp hentry
      obtain ⟨hnode, output, hok, -⟩ := yield?_eq_some_iff.mp hyield
      exact ⟨v, hv, hnode, output, hok⟩
    · simp at hid
  · rintro ⟨v, hv, rfl, output, hok⟩
    refine Or.inl (List.mem_map.mpr ⟨(v.node.id, output.data), ?_, rfl⟩)
    exact List.mem_filterMap.mpr ⟨v, hv, yield?_eq_some_iff.mpr ⟨rfl, output, hok, rfl⟩⟩

end Visit

namespace History

variable {h : History σ} {id : String}

/-- Exactly the nodes that were run to their end have a value. -/
lemma hasKey_outputs (h : History σ) (id : String) :
    Keyed.hasKey h.outputs id ↔ ∃ v ∈ h.visits, v.node.id = id ∧ v.Succeeded :=
  Visit.hasKey_yields h.visits id

/-- The value of a node that was run to its end is what its handler yielded. -/
lemma value?_outputs (hdistinct : (h.visits.map fun v => v.node.id).Nodup) {v : Visit}
    (hv : v ∈ h.visits) {output : Output} (hok : v.outcome = .ok output) :
    Keyed.value? h.outputs v.node.id = some output.data := by
  have hentry : (v.node.id, output.data) ∈ (h.visits.filterMap Visit.yield?).reverse :=
    List.mem_reverse.mpr
      (List.mem_filterMap.mpr ⟨v, hv, Visit.yield?_eq_some_iff.mpr ⟨rfl, output, hok, rfl⟩⟩)
  have hkeys : ((h.visits.filterMap Visit.yield?).reverse.map Prod.fst).Nodup := by
    rw [List.map_reverse, List.nodup_reverse]
    exact (Visit.sublist_map_fst_yield? h.visits).nodup hdistinct
  rw [outputs, Keyed.ofEntries, Keyed.value?_putAll, Keyed.value?_of_mem hkeys hentry]
  rfl

/-- The outputs are a sorted collection. -/
lemma sorted_outputs (h : History σ) : Keyed.Sorted h.outputs := Keyed.sorted_ofEntries _

end History

/-! ## Reports -/

/-- No error makes a run a completed one. -/
lemma Status.ofError_ne_completed (error : Error) : Status.ofError error ≠ .completed := by
  unfold Status.ofError
  split <;> simp

namespace Run

variable {w : Workflow} {seeds : Fields} {order : List String} {h : History σ}

/-- The nodes that were started. -/
def visits : Run σ → List Visit
  | .rejected _ _ => []
  | .started _ history => history.visits

/-- What is reported of every run that was started. -/
lemma report_started (w : Workflow) (seeds : Fields) (order : List String) (h : History σ) :
    ((Run.started order h).report w seeds).allOutputs = h.outputs ∧
      ((Run.started order h).report w seeds).started = true ∧
      ((Run.started order h).report w seeds).order = order := by
  unfold report
  cases hending : h.ending with
  | completed => simp only [hending, and_self]
  | failed error => simp only [hending, and_self]
  | stopped before error => simp only [hending, and_self]

/-- The time that is reported is that at the end of the run. -/
lemma report_ticks (w : Workflow) (seeds : Fields) (order : List String) (h : History σ) :
    ((Run.started order h).report w seeds).ticks = h.finish := by
  unfold report
  cases hending : h.ending with
  | completed => simp only [hending]
  | failed error => simp only [hending]
  | stopped before error => simp only [hending]

/-- What is reported of a completed run. -/
lemma report_completed (w : Workflow) (seeds : Fields) (order : List String)
    (hending : h.ending = .completed) :
    ((Run.started order h).report w seeds).status = .completed ∧
      ((Run.started order h).report w seeds).outputs = w.collect order h.outputs ∧
      ((Run.started order h).report w seeds).error = none := by
  unfold report
  simp only [hending, and_self]

/-- What is reported of a run that an error ended. -/
lemma report_error (w : Workflow) (seeds : Fields) (order : List String) {error : Error}
    (hending : h.ending = .failed error ∨ ∃ before, h.ending = .stopped before error) :
    ((Run.started order h).report w seeds).status = .ofError error ∧
      ((Run.started order h).report w seeds).outputs = [] ∧
      ((Run.started order h).report w seeds).error = some error := by
  unfold report
  rcases hending with hending | ⟨before, hending⟩
  · simp only [hending, and_self]
  · simp only [hending, and_self]

/-- A completed run was started and ran all its nodes. -/
lemma exists_of_completed {r : Run σ} (hstatus : (r.report w seeds).status = .completed) :
    ∃ order h, r = .started order h ∧ h.ending = .completed := by
  cases r with
  | rejected fault state => cases hstatus
  | started order h =>
    refine ⟨order, h, rfl, ?_⟩
    cases hending : h.ending with
    | completed => rfl
    | failed error =>
      rw [(report_error w seeds order (Or.inl hending)).1] at hstatus
      exact absurd hstatus (Status.ofError_ne_completed error)
    | stopped before error =>
      rw [(report_error w seeds order (Or.inr ⟨before, hending⟩)).1] at hstatus
      exact absurd hstatus (Status.ofError_ne_completed error)

end Run

/-! ## Gathering along arcs -/

/-- What a node gathers is known from the values of the nodes from which arcs lead to it, and of
those names that are no nodes. -/
lemma Graph.gather_congr_arcs {g : Graph} {id : String} {outputs outputs' seeds : Fields}
    (harcs : ∀ u, g.Arc u id → Keyed.value? outputs u = Keyed.value? outputs' u)
    (hothers : ∀ u, u ∉ g.ids → Keyed.value? outputs u = Keyed.value? outputs' u) :
    g.gather id outputs seeds = g.gather id outputs' seeds := by
  refine gather_congr fun edge hedge => ?_
  obtain ⟨hid, hmem, htarget⟩ := mem_incoming.mp hedge
  rw [Edge.source?, Edge.source?]
  by_cases hsource : edge.source ∈ g.ids
  · rw [harcs edge.source ⟨hsource, hid, edge, hmem, rfl, htarget⟩]
  · rw [hothers edge.source hsource]

/-! ## Runs -/

namespace Engine

variable {e : Engine σ} {w : Workflow} {seeds : Fields} {state : σ} {order : List String}
  {h : History σ}

/-- A run is started if there is a plan. -/
lemma exists_run_of_plan (e : Engine σ) (hplan : w.plan = .ok order) (seeds : Fields) (state : σ) :
    ∃ h, e.run w seeds state = .started order h := by
  rw [run, hplan]
  exact ⟨_, rfl⟩

/-- A run whose limit has passed at once is rejected, or stopped before the first node of its
plan. -/
lemma runLate_cases (e : Engine σ) (w : Workflow) (state : σ) :
    (∃ fault, w.plan = .error fault ∧ e.runLate w state = .rejected fault state) ∨
      ∃ order n rest, w.plan = .ok order ∧ w.planned order = n :: rest ∧
        e.runLate w state = .started order ⟨[], .stopped n.id (e.timeout 0), 0, state⟩ := by
  cases hplan : w.plan with
  | error fault => exact .inl ⟨fault, rfl, by rw [runLate, hplan]⟩
  | ok order =>
    obtain ⟨hperm, -⟩ := Workflow.perm_and_ordered_of_plan hplan
    cases order with
    | nil => exact absurd rfl (Workflow.ne_nil_of_plan hplan)
    | cons id order =>
      obtain ⟨n, hn⟩ := Workflow.exists_node? (hperm.mem_iff.mp List.mem_cons_self)
      obtain ⟨-, rfl⟩ := Workflow.of_node? hn
      exact .inr ⟨n.id :: order, n, w.planned order, rfl, List.filterMap_cons_some hn,
        by rw [runLate, hplan]⟩

/-- A run that is started follows the plan. -/
lemma walked_of_run (hrun : e.run w seeds state = .started order h) :
    w.plan = .ok order ∧
      e.Walked (Graph.ofWorkflow w) seeds (w.planned order) [] 0 state h := by
  rw [run] at hrun
  cases hplan : w.plan with
  | error fault =>
    rw [hplan] at hrun
    cases hrun
  | ok order' =>
    rw [hplan] at hrun
    obtain ⟨rfl, rfl⟩ := Run.started.inj hrun
    exact ⟨rfl, e.walked_walk _ _ _ _ _ _⟩

/-- The visited nodes are those of a first part of the plan. -/
lemma prefix_of_run (hrun : e.run w seeds state = .started order h) :
    (h.visits.map fun v => v.node.id) <+: order := by
  obtain ⟨hplan, hwalked⟩ := walked_of_run hrun
  have hprefix := hwalked.prefix_of_visits.map Node.id
  rwa [List.map_map, Workflow.map_id_planned hplan] at hprefix

/-- The identifiers of the visited nodes are distinct. -/
lemma nodup_of_run (hrun : e.run w seeds state = .started order h) :
    (h.visits.map fun v => v.node.id).Nodup := by
  obtain ⟨hplan, -⟩ := walked_of_run hrun
  exact (prefix_of_run hrun).sublist.nodup (Workflow.nodup_of_plan hplan)

/-- The visited nodes are nodes of the workflow. -/
lemma mem_nodes_of_visit (hrun : e.run w seeds state = .started order h) {v : Visit}
    (hv : v ∈ h.visits) : v.node ∈ w.nodes := by
  obtain ⟨hplan, hwalked⟩ := walked_of_run hrun
  exact (Workflow.mem_planned hplan).mp
    (hwalked.prefix_of_visits.subset (List.mem_map_of_mem hv))

lemma mem_ids_of_visit (hrun : e.run w seeds state = .started order h) {v : Visit}
    (hv : v ∈ h.visits) : v.node.id ∈ w.ids := List.mem_map_of_mem (mem_nodes_of_visit hrun hv)

/-- Only nodes have a value. -/
lemma mem_ids_of_hasKey (hrun : e.run w seeds state = .started order h) {id : String}
    (hid : Keyed.hasKey h.outputs id) : id ∈ w.ids := by
  obtain ⟨v, hv, rfl, -⟩ := (h.hasKey_outputs id).mp hid
  exact mem_ids_of_visit hrun hv

/-- The nodes from which arcs lead to a visited node were visited before it. -/
lemma mem_before_of_arc (hrun : e.run w seeds state = .started order h)
    {before after : List Visit} {v : Visit} (hvisits : h.visits = before ++ v :: after) {u : String}
    (harc : (Graph.ofWorkflow w).Arc u v.node.id) : u ∈ before.map fun v => v.node.id := by
  obtain ⟨hplan, -⟩ := walked_of_run hrun
  obtain ⟨-, hordered⟩ := Workflow.perm_and_ordered_of_plan hplan
  obtain ⟨rest, hrest⟩ := prefix_of_run hrun
  rw [hvisits, List.map_append, List.map_cons] at hrest
  exact hordered (before.map fun v => v.node.id) v.node.id
    ((after.map fun v => v.node.id) ++ rest) (by rw [← hrest]; simp) u harc

/-- The inputs of a node are what it would gather from the outputs of the whole run. The source of
an edge into it that is a node stands before it, and the nodes from it on do not have that name. -/
lemma inputs_eq_gather_outputs (hrun : e.run w seeds state = .started order h) {v : Visit}
    (hv : v ∈ h.visits) :
    v.inputs = (Graph.ofWorkflow w).gather v.node.id h.outputs seeds := by
  obtain ⟨hplan, hwalked⟩ := walked_of_run hrun
  obtain ⟨hperm, -⟩ := Workflow.perm_and_ordered_of_plan hplan
  obtain ⟨before, after, hvisits⟩ := List.append_of_mem hv
  -- a name that no visit from this one on has keeps its value
  have hsame : ∀ u, u ∉ (v :: after).map (fun v => v.node.id) →
      Keyed.value? (Keyed.putAll [] (before.filterMap Visit.yield?)) u =
        Keyed.value? h.outputs u := by
    intro u hu
    rw [History.outputs, Keyed.ofEntries, hvisits, List.filterMap_append, Keyed.putAll_append]
    exact (Keyed.value?_putAll_of_not_mem fun hkey =>
      hu ((Visit.sublist_map_fst_yield? (v :: after)).subset hkey)).symm
  rw [hwalked.inputs_eq hvisits]
  refine Graph.gather_congr_arcs (fun u harc => hsame u fun hlate => ?_)
    fun u hu => hsame u fun hlate => ?_
  · have hdistinct := nodup_of_run hrun
    rw [hvisits, List.map_append] at hdistinct
    exact (List.nodup_append.mp hdistinct).2.2 u (mem_before_of_arc hrun hvisits harc) u hlate rfl
  · obtain ⟨v', hv', rfl⟩ := List.mem_map.mp hlate
    have hmem : v' ∈ h.visits := hvisits ▸ List.mem_append_right before hv'
    exact hu (hperm.mem_iff.mp ((prefix_of_run hrun).subset (List.mem_map_of_mem hmem)))

end Engine

end Dataflow
