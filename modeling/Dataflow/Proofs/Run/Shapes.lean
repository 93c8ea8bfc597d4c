import Dataflow.Proofs.Run.Outputs
import Dataflow.Proofs.Run.Attribution
import Dataflow.Run.Standard

/-!
# The shapes of a run

A run of a workflow that passes the check has exactly one of three shapes: all nodes were run to
their end (`Shape.completed`), a node failed (`Shape.failed`), or the limit had passed before a node
(`Shape.stopped`). `Shape.Fits` says what each of them means for the visits and for the report.

A report finds the node that failed in the error. This is the right one as long as no handler and no
carrier attributes its errors to a node itself (`Engine.Unattributed`).
-/

namespace Dataflow

variable {σ : Type}

/-! ## Results -/

namespace Workflow

variable {w : Workflow} {order : List String} {outputs : Fields}

/-- The results are the values of the output nodes, if there are any. -/
lemma collect_eq_filter (houtputs : Keyed.Sorted outputs) (hids : w.outputIds ≠ []) :
    w.collect order outputs = outputs.filter fun entry => w.outputIds.contains entry.1 := by
  rw [collect, if_neg (by simpa using hids)]
  refine (Keyed.sorted_ofEntries _).ext (List.Pairwise.filter _ houtputs) fun id => ?_
  rw [Keyed.ofEntries, Keyed.value?_putAll, ← List.filterMap_reverse, Keyed.value?_filterMap,
    Keyed.value?_nil, Option.or_none, Keyed.value?_filter _ w.outputIds.contains]
  simp only [List.mem_reverse, List.contains_iff_mem]

/-- Without output nodes the result is the value of the node that was run last. -/
lemma collect_eq_result {last : String} {v : Json} (hids : w.outputIds = [])
    (hlast : order.getLast? = some last) (hv : Keyed.value? outputs last = some v) :
    w.collect order outputs = [("result", v)] := by
  rw [collect, if_pos (by simpa using hids), hlast, Option.bind_some, hv, Option.getD_some]

end Workflow

/-! ## Shapes -/

/-- The shapes of a run over an order. -/
inductive Shape where
  /-- All nodes were run to their end. -/
  | completed
  /-- The nodes before the `k`-th were run to their end, and that one failed. -/
  | failed (k : ℕ)
  /-- The nodes before the `k`-th were run to their end, and the limit had passed before that
  one. -/
  | stopped (k : ℕ)

namespace Shape

/-- What a completed run did, and what is reported of it. -/
structure Completed (w : Workflow) (order : List String) (visits : List Visit) (r : Report) :
    Prop where
  started : visits.map (fun v => v.node.id) = order
  handled : ∀ v ∈ visits, v.node ∈ w.nodes ∧ v.handled = true ∧ v.Succeeded
  status : r.status = .completed
  keys : ∀ id, Keyed.hasKey r.allOutputs id ↔ id ∈ w.ids
  outputs : w.outputIds ≠ [] →
    r.outputs = r.allOutputs.filter fun entry => w.outputIds.contains entry.1
  result : w.outputIds = [] → ∃ last v, order.getLast? = some last ∧
    Keyed.value? r.allOutputs last = some v ∧ r.outputs = [("result", v)]
  no_error : r.error = none ∧ r.failedNode = none ∧ r.partialOutputs = none ∧ r.errorEntries = []

/-- What a run did that an error ended when the nodes before the `k`-th had been run, and what is
reported of it; `count` nodes had been started. -/
structure Ended (order : List String) (k count : ℕ) (visits : List Visit) (r : Report) :
    Prop where
  lt_length : k < order.length
  started : visits.map (fun v => v.node.id) = order.take count
  keys : ∀ id, Keyed.hasKey r.allOutputs id ↔ id ∈ order.take k
  outputs : r.outputs = []
  partialOutputs : r.partialOutputs = some r.allOutputs
  status : r.status ≠ .completed

/-- Which runs have a shape. -/
def Fits (w : Workflow) (order : List String) (visits : List Visit) (r : Report) : Shape → Prop
  | completed => Completed w order visits r
  | failed k => Ended order k (k + 1) visits r ∧
    ∃ id, order[k]? = some id ∧ r.failedNode = some id
  | stopped k => Ended order k k visits r ∧ r.failedNode = none ∧ r.status = .timedOut

/-- How many nodes had been started. -/
lemma Ended.length_visits {order : List String} {k count : ℕ} {visits : List Visit} {r : Report}
    (h : Ended order k count visits r) (hcount : count ≤ order.length) :
    visits.length = count := by
  have hlength := congrArg List.length h.started
  rw [List.length_map, List.length_take] at hlength
  omega

/-- A run has no two shapes: the status tells the completed ones, the failed node the failed ones,
and the number of visits the position. -/
lemma Fits.unique {w : Workflow} {order : List String} {visits : List Visit} {r : Report}
    {s s' : Shape} (hs : s.Fits w order visits r) (hs' : s'.Fits w order visits r) : s = s' := by
  cases s with
  | completed =>
    cases s' with
    | completed => rfl
    | failed k => exact absurd hs.status hs'.1.status
    | stopped k => exact absurd hs.status hs'.1.status
  | failed k =>
    obtain ⟨hended, id, -, hid⟩ := hs
    have hlength := hended.length_visits hended.lt_length
    cases s' with
    | completed => exact absurd hs'.status hended.status
    | failed k' =>
      have hlength' := hs'.1.length_visits hs'.1.lt_length
      exact congrArg failed (by omega)
    | stopped k' =>
      rw [hs'.2.1] at hid
      cases hid
  | stopped k =>
    obtain ⟨hended, hnone, -⟩ := hs
    have hlength := hended.length_visits hended.lt_length.le
    cases s' with
    | completed => exact absurd hs'.status hended.status
    | failed k' =>
      obtain ⟨-, id, -, hid⟩ := hs'
      rw [hnone] at hid
      cases hid
    | stopped k' =>
      have hlength' := hs'.1.length_visits hs'.1.lt_length.le
      exact congrArg stopped (by omega)

/-- Only nodes have a value, whatever the shape. -/
lemma Fits.mem_ids {w : Workflow} {order : List String} {visits : List Visit} {r : Report}
    {s : Shape} (hs : s.Fits w order visits r) (horder : ∀ id ∈ order, id ∈ w.ids) {id : String}
    (hid : Keyed.hasKey r.allOutputs id) : id ∈ w.ids := by
  cases s with
  | completed => exact (hs.keys id).mp hid
  | failed k => exact horder id (List.mem_of_mem_take ((hs.1.keys id).mp hid))
  | stopped k => exact horder id (List.mem_of_mem_take ((hs.1.keys id).mp hid))

end Shape

/-! ### The shape of a history -/

namespace History

variable {w : Workflow} {seeds : Fields} {order : List String} {h : History σ} {k : ℕ}

/-- Which nodes have a value, if some first ones were run to their end and the others failed. -/
lemma hasKey_outputs_of_append {before after : List Visit} (hvisits : h.visits = before ++ after)
    (hbefore : ∀ v ∈ before, v.Succeeded) (hafter : ∀ v ∈ after, ¬ v.Succeeded) (id : String) :
    Keyed.hasKey h.outputs id ↔ id ∈ before.map fun v => v.node.id := by
  rw [hasKey_outputs, hvisits]
  constructor
  · rintro ⟨v, hv, rfl, hsucceeded⟩
    rcases List.mem_append.mp hv with hv | hv
    · exact List.mem_map_of_mem hv
    · exact absurd hsucceeded (hafter v hv)
  · intro hid
    obtain ⟨v, hv, rfl⟩ := List.mem_map.mp hid
    exact ⟨v, List.mem_append_left _ hv, rfl, hbefore v hv⟩

/-- The visits, by the identifiers of their nodes. -/
lemma map_visits {nodes : List Node} (hvisited : h.visits.map Visit.node = nodes) :
    (h.visits.map fun v => v.node.id) = nodes.map Node.id := by
  rw [← hvisited, List.map_map]
  rfl

/-- A history that ran all nodes of the plan is completed. -/
lemma Completes.fits (hplan : w.plan = .ok order) (hshape : h.Completes (w.planned order))
    (hhandled : ∀ v ∈ h.visits, v.Succeeded → v.handled = true) :
    Shape.completed.Fits w order h.visits ((Run.started order h).report w seeds) := by
  obtain ⟨hperm, -⟩ := Workflow.perm_and_ordered_of_plan hplan
  obtain ⟨hall, -, -⟩ := Run.report_started w seeds order h
  obtain ⟨hstatus, houtputs, herror⟩ := Run.report_completed w seeds order hshape.ending
  have hstarted : (h.visits.map fun v => v.node.id) = order := by
    rw [map_visits hshape.visited, Workflow.map_id_planned hplan]
  have hkeys : ∀ id, Keyed.hasKey h.outputs id ↔ id ∈ order := fun id => by
    rw [hasKey_outputs_of_append (List.append_nil _).symm hshape.succeeded (by simp), hstarted]
  refine ⟨hstarted, fun v hv => ⟨?_, hhandled v hv (hshape.succeeded v hv),
    hshape.succeeded v hv⟩, hstatus, fun id => ?_, fun hids => ?_, fun hids => ?_, ?_⟩
  · rw [← Workflow.mem_planned hplan, ← hshape.visited]
    exact List.mem_map_of_mem hv
  · rw [hall, hkeys, hperm.mem_iff]
  · rw [houtputs, hall, Workflow.collect_eq_filter h.sorted_outputs hids]
  · have hne : order ≠ [] := Workflow.ne_nil_of_plan hplan
    obtain ⟨v, hv⟩ := Option.isSome_iff_exists.mp ((hkeys _).mpr (List.getLast_mem hne))
    have hlast := List.getLast?_eq_some_getLast hne
    exact ⟨_, v, hlast, hall ▸ hv, by rw [houtputs, Workflow.collect_eq_result hids hlast hv]⟩
  · simp [Report.failedNode, Report.partialOutputs, Report.errorEntries, herror]

/-- What is reported when an error ended a history: the nodes before the `k`-th were run to their
end, and those that were started after them failed. -/
lemma ended (hplan : w.plan = .ok order) {error : Error} {before after : List Visit}
    (hending : h.ending = .failed error ∨ ∃ id, h.ending = .stopped id error)
    (hvisits : h.visits = before ++ after) (hk : k < order.length)
    (hcount : k + after.length ≤ order.length)
    (hvisited : h.visits.map Visit.node = (w.planned order).take (k + after.length))
    (hbefore : ∀ v ∈ before, v.Succeeded) (hafter : ∀ v ∈ after, ¬ v.Succeeded) :
    Shape.Ended order k (k + after.length) h.visits ((Run.started order h).report w seeds) := by
  obtain ⟨hall, hwas, -⟩ := Run.report_started w seeds order h
  obtain ⟨hstatus, houtputs, herror⟩ := Run.report_error w seeds order hending
  have hstarted : (h.visits.map fun v => v.node.id) = order.take (k + after.length) := by
    rw [map_visits hvisited, List.map_take, Workflow.map_id_planned hplan]
  have hlength : before.length = k := by
    have h := congrArg List.length hstarted
    rw [hvisits, List.length_map, List.length_append, List.length_take] at h
    omega
  have hids : (before.map fun v => v.node.id) = order.take k := by
    have h := congrArg (List.take k) hstarted
    rwa [hvisits, List.map_append, List.take_left' (by rw [List.length_map, hlength]),
      List.take_take, min_eq_left (by omega)] at h
  refine ⟨hk, hstarted, fun id => ?_, houtputs, ?_, ?_⟩
  · rw [hall, hasKey_outputs_of_append hvisits hbefore hafter, hids]
  · simp [Report.partialOutputs, hwas, herror]
  · rw [hstatus]
    exact Status.ofError_ne_completed error

/-- What is reported of a history that failed at a node of the plan: its error is that of the node,
attributed to it. -/
lemma FailsAt.ended (hplan : w.plan = .ok order) (hshape : h.FailsAt (w.planned order) k)
    (seeds : Fields) :
    Shape.Ended order k (k + 1) h.visits ((Run.started order h).report w seeds) ∧
      ∃ v error, h.visits[k]? = some v ∧ order[k]? = some v.node.id ∧ v.outcome = .error error ∧
        ((Run.started order h).report w seeds).error = some (error.within v.node.id) := by
  obtain ⟨v, error, hv, hfailed, hending⟩ := hshape.failed
  obtain ⟨-, -, herror⟩ := Run.report_error w seeds order (Or.inl hending)
  have hids : (h.visits.map fun v => v.node.id) = order.take (k + 1) := by
    rw [map_visits hshape.visited, List.map_take, Workflow.map_id_planned hplan]
  have hnode : order[k]? = some v.node.id := by
    have h := congrArg (·[k]?) hids
    simpa [hv] using h.symm
  obtain ⟨hk, -⟩ := List.getElem?_eq_some_iff.mp hnode
  have hvisits : h.visits = h.visits.take k ++ [v] := by
    have hle : h.visits.length ≤ k + 1 := by
      have h := congrArg List.length hids
      rw [List.length_map, List.length_take] at h
      omega
    calc h.visits = h.visits.take (k + 1) := (List.take_of_length_le hle).symm
      _ = h.visits.take k ++ [v] := by rw [List.take_add_one, hv, Option.toList_some]
  refine ⟨History.ended hplan (Or.inl hending) hvisits hk (Nat.succ_le_of_lt hk) hshape.visited
    hshape.succeeded ?_, v, error, hv, hnode, hfailed, herror⟩
  rintro u hu ⟨output, hok⟩
  rw [List.mem_singleton.mp hu, hfailed] at hok
  cases hok

/-- A history that failed at a node of the plan. -/
lemma FailsAt.fits (hplan : w.plan = .ok order) (hshape : h.FailsAt (w.planned order) k)
    (herrors : ∀ v ∈ h.visits, ∀ error, v.outcome = .error error → error.node? = none) :
    (Shape.failed k).Fits w order h.visits ((Run.started order h).report w seeds) := by
  obtain ⟨hended, v, error, hv, hnode, hfailed, herror⟩ := hshape.ended hplan seeds
  refine ⟨hended, v.node.id, hnode, ?_⟩
  rw [Report.failedNode, herror]
  exact Error.node?_within (herrors v (List.mem_of_getElem? hv) error hfailed) _

/-- A history that was stopped before a node of the plan. -/
lemma StopsBefore.fits (hplan : w.plan = .ok order) (hshape : h.StopsBefore (w.planned order) k) :
    (Shape.stopped k).Fits w order h.visits ((Run.started order h).report w seeds) := by
  obtain ⟨n, elapsed, limit, hn, hending⟩ := hshape.stopped
  obtain ⟨hstatus, -, herror⟩ := Run.report_error w seeds order (Or.inr ⟨_, hending⟩)
  have hk : k < order.length := by
    obtain ⟨hk, -⟩ := List.getElem?_eq_some_iff.mp hn
    rwa [Workflow.length_planned hplan] at hk
  refine ⟨ended hplan (Or.inr ⟨_, hending⟩) (List.append_nil _).symm hk hk.le hshape.visited
    hshape.succeeded (by simp), ?_, hstatus⟩
  rw [Report.failedNode, herror]
  rfl

end History

/-! ## The main result -/

namespace Engine

variable {e : Engine σ} {w : Workflow} {seeds : Fields} {state : σ} {order : List String}
  {h : History σ}

/-- A run that is started fits a shape. -/
lemma exists_fits_of_run (he : e.Unattributed) (hrun : e.run w seeds state = .started order h) :
    ∃ shape : Shape, shape.Fits w order h.visits ((Run.started order h).report w seeds) := by
  obtain ⟨hplan, hwalked⟩ := walked_of_run hrun
  rcases hwalked.shape with hshape | ⟨k, hshape⟩ | ⟨k, hshape⟩
  · exact ⟨.completed, hshape.fits hplan fun v hv hsucceeded => hwalked.handled hv hsucceeded⟩
  · refine ⟨.failed k, hshape.fits hplan fun v hv error herror => ?_⟩
    obtain ⟨state, state', hvisit⟩ := hwalked.visit_eq hv
    exact he.node?_of_visit hvisit herror
  · exact ⟨.stopped k, hshape.fits hplan⟩

/-- A run whose limit has passed at once is stopped before its first node. -/
lemma fits_of_runLate (e : Engine σ) (hplan : w.plan = .ok order) (seeds : Fields) (state : σ) :
    ∃ h, e.runLate w state = .started order h ∧
      (Shape.stopped 0).Fits w order h.visits ((Run.started order h).report w seeds) := by
  rcases e.runLate_cases w state with ⟨fault, hfault, -⟩ | ⟨order', n, rest, hplan', hnodes, hlate⟩
  · cases hfault.symm.trans hplan
  · obtain rfl := Except.ok.inj (hplan'.symm.trans hplan)
    have hfirst : (w.planned order')[0]? = some n := by rw [hnodes]; rfl
    exact ⟨_, hlate, History.StopsBefore.fits hplan ⟨rfl, by simp, n, _, _, hfirst, rfl⟩⟩

/-- A run of a workflow that passes the check follows the order of its graph and has exactly one of
the three shapes, whether its limit has passed at once or not. Only nodes ever have a value. -/
theorem run_shape (hcheck : w.check = .ok ()) (he : e.Unattributed) (seeds : Fields) (state : σ)
    {run : Run σ} (hrun : run = e.run w seeds state ∨ run = e.runLate w state) :
    ∃ order, w.order = .sorted order ∧ order.Perm w.ids ∧ order.Nodup ∧
      (run.report w seeds).started = true ∧ (run.report w seeds).order = order ∧
      (∃! shape : Shape, shape.Fits w order run.visits (run.report w seeds)) ∧
      ∀ id, Keyed.hasKey (run.report w seeds).allOutputs id → id ∈ w.ids := by
  obtain ⟨order, hplan⟩ := Workflow.check_eq_ok_iff.mp hcheck
  obtain ⟨-, -, hids, horder⟩ := Workflow.plan_eq_ok_iff.mp hplan
  obtain ⟨hperm, -⟩ := Workflow.perm_and_ordered_of_plan hplan
  obtain ⟨h, rfl, shape, hfits⟩ : ∃ h, run = .started order h ∧
      ∃ shape : Shape, shape.Fits w order h.visits ((Run.started order h).report w seeds) := by
    rcases hrun with rfl | rfl
    · obtain ⟨h, hstarted⟩ := e.exists_run_of_plan hplan seeds state
      exact ⟨h, hstarted, exists_fits_of_run he hstarted⟩
    · obtain ⟨h, hlate, hfits⟩ := e.fits_of_runLate hplan seeds state
      exact ⟨h, hlate, _, hfits⟩
  obtain ⟨-, hwas, hnoted⟩ := Run.report_started w seeds order h
  refine ⟨order, horder, hperm, hperm.nodup_iff.mpr hids, hwas, hnoted,
    ⟨shape, hfits, fun other hother => hother.unique hfits⟩, fun id hid => ?_⟩
  exact hfits.mem_ids (fun id hid => hperm.mem_iff.mp hid) hid

/-- Of three nodes in a row the second one fails. -/
theorem run_shape_second_of_three :
    let e : Engine ℕ := ⟨[("bad", ⟨"", .ofFunction fun _ _ => .error (.node "refused")⟩),
        ("good", ⟨"", .ofFunction fun _ inputs => .ok (Kinds.runMerge inputs)⟩)], [],
      fun call calls => .pure (.error (.capabilityUnavailable call.capability)) calls, 1000, false⟩
    let w : Workflow := ⟨none, none, [⟨"a", "good", .null⟩, ⟨"b", "bad", .null⟩,
      ⟨"c", "good", .null⟩], [.between "seed" "a", .between "a" "b", .between "b" "c"]⟩
    let seeds : Fields := [("seed", .bool true)]
    let run := e.run w seeds 0
    w.check = .ok () ∧ e.Unattributed ∧ (run.report w seeds).failedNode = some "b" ∧
      Keyed.keys (run.report w seeds).allOutputs = ["a"] ∧
      ∃ order, w.order = .sorted order ∧
        ∃! shape : Shape, shape.Fits w order run.visits (run.report w seeds) := by
  intro e w seeds run
  have hcheck : w.check = .ok () := by rfl
  have he : e.Unattributed := by
    refine ⟨fun entry hentry config inputs state error herror => ?_,
      fun call state error herror => ?_⟩
    · simp only [e, List.mem_cons, List.not_mem_nil, or_false] at hentry
      rcases hentry with rfl | rfl
      · obtain rfl := Except.error.inj herror
        rfl
      · cases herror
    · obtain rfl := Except.error.inj herror
      rfl
  obtain ⟨order, horder, -, -, -, -, hshape, -⟩ := run_shape hcheck he seeds 0 (Or.inl rfl)
  exact ⟨hcheck, he, by decide, by decide, order, horder, hshape⟩

end Engine

end Dataflow
