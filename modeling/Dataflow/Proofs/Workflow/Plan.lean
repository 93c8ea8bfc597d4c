import Dataflow.Workflow.Check
import Dataflow.Run.Engine
import Dataflow.Proofs.Order.Sorted

/-!
# Plans

A workflow has a plan if it has nodes, their identifiers are distinct and not empty, their types
are not empty, and its graph can be sorted (`plan_eq_ok_iff`). The nodes that are run are those of
the plan, and these are all nodes of the workflow (`map_id_planned`, `mem_planned`).
-/

namespace Dataflow.Workflow

variable {w : Workflow} {order : List String} {id : String} {n : Node}

/-- The nodes have no fault if their identifiers and types are not empty and their identifiers are
distinct from each other and from those seen before. -/
lemma nodeFault_eq_none_iff (seen : List String) (nodes : List Node) :
    nodeFault seen nodes = none ↔
      (∀ n ∈ nodes, n.id ≠ "" ∧ n.type ≠ "" ∧ n.id ∉ seen) ∧ (nodes.map Node.id).Nodup := by
  induction nodes generalizing seen with
  | nil => simp [nodeFault]
  | cons n nodes ih =>
    rw [nodeFault, List.forall_mem_cons, List.map_cons, List.nodup_cons]
    by_cases hid : n.id = ""
    · simp [hid]
    by_cases hseen : n.id ∈ seen
    · simp [hid, hseen]
    by_cases htype : n.type = ""
    · simp [hid, hseen, htype]
    rw [if_neg (by simpa using hid), if_neg (by simpa using hseen), if_neg (by simpa using htype),
      ih]
    have hnotin : n.id ∉ nodes.map Node.id ↔ ∀ m ∈ nodes, m.id ≠ n.id := by
      simp only [List.mem_map, not_exists, not_and]
    rw [hnotin]
    constructor
    · rintro ⟨hnodes, hdistinct⟩
      refine ⟨⟨⟨hid, htype, hseen⟩, fun m hm => ?_⟩, fun m hm => ?_, hdistinct⟩
      · obtain ⟨hmid, hmtype, hmseen⟩ := hnodes m hm
        exact ⟨hmid, hmtype, fun h => hmseen (List.mem_cons_of_mem _ h)⟩
      · exact fun h => (hnodes m hm).2.2 (h ▸ List.mem_cons_self)
    · rintro ⟨⟨-, hnodes⟩, hne, hdistinct⟩
      refine ⟨fun m hm => ?_, hdistinct⟩
      obtain ⟨hmid, hmtype, hmseen⟩ := hnodes m hm
      refine ⟨hmid, hmtype, fun h => ?_⟩
      rcases List.mem_cons.mp h with h | h
      · exact hne m hm h
      · exact hmseen h

/-- Which workflows have no fault in their nodes. -/
lemma nodesFault_eq_none_iff :
    w.nodesFault = none ↔
      w.nodes ≠ [] ∧ (∀ n ∈ w.nodes, n.id ≠ "" ∧ n.type ≠ "") ∧ w.ids.Nodup := by
  rw [nodesFault]
  by_cases hnodes : w.nodes = []
  · simp [hnodes]
  · rw [if_neg (by simpa using hnodes), nodeFault_eq_none_iff]
    simp [hnodes, ids]

/-- Which workflows have a plan, and what the plan is. -/
lemma plan_eq_ok_iff :
    w.plan = .ok order ↔ w.nodes ≠ [] ∧ (∀ n ∈ w.nodes, n.id ≠ "" ∧ n.type ≠ "") ∧
      w.ids.Nodup ∧ w.order = .sorted order := by
  rw [plan]
  cases hnone : w.nodesFault with
  | some fault =>
    constructor
    · intro h
      cases h
    · rintro ⟨hnodes, hne, hids, -⟩
      rw [nodesFault_eq_none_iff.mpr ⟨hnodes, hne, hids⟩] at hnone
      cases hnone
  | none =>
    obtain ⟨hnodes, hne, hids⟩ := nodesFault_eq_none_iff.mp hnone
    cases horder : w.order with
    | sorted order' =>
      constructor
      · intro h
        exact ⟨hnodes, hne, hids, by rw [Except.ok.inj h]⟩
      · rintro ⟨-, -, -, h⟩
        exact congrArg Except.ok (Order.sorted.inj h)
    | cyclic ordered blocked => simp

/-- Checking a workflow and planning it find the same fault, though each looks for itself. -/
lemma check_eq_map_plan (w : Workflow) : w.check = w.plan.map fun _ => () := by
  rw [check, plan]
  cases w.nodesFault with
  | some fault => rfl
  | none => cases w.order <;> rfl

/-- A workflow passes the check if it has a plan. -/
lemma check_eq_ok_iff : w.check = .ok () ↔ ∃ order, w.plan = .ok order := by
  rw [check_eq_map_plan]
  cases w.plan with
  | error fault => simp [Except.map]
  | ok order => simp [Except.map]

/-- A workflow fails the check with the fault that keeps it from having a plan. -/
lemma check_eq_error_iff {fault : Fault} : w.check = .error fault ↔ w.plan = .error fault := by
  rw [check_eq_map_plan]
  cases w.plan with
  | error fault' => simp [Except.map]
  | ok order => simp [Except.map]

/-- A plan holds the identifier of every node once and is ordered. -/
lemma perm_and_ordered_of_plan (hplan : w.plan = .ok order) :
    order.Perm w.ids ∧ (Graph.ofWorkflow w).Ordered order := by
  obtain ⟨-, -, hids, horder⟩ := plan_eq_ok_iff.mp hplan
  exact Graph.perm_and_ordered_of_sorted (g := Graph.ofWorkflow w) hids horder

/-- A plan holds no identifier twice. -/
lemma nodup_of_plan (hplan : w.plan = .ok order) : order.Nodup := by
  obtain ⟨-, -, hids, -⟩ := plan_eq_ok_iff.mp hplan
  exact (perm_and_ordered_of_plan hplan).1.nodup_iff.mpr hids

/-- A plan is not empty. -/
lemma ne_nil_of_plan (hplan : w.plan = .ok order) : order ≠ [] := by
  rintro rfl
  obtain ⟨hnodes, -, -, -⟩ := plan_eq_ok_iff.mp hplan
  obtain ⟨hperm, -⟩ := perm_and_ordered_of_plan hplan
  exact hnodes (List.map_eq_nil_iff.mp hperm.nil_eq.symm)

/-! ## The nodes of a plan -/

/-- The nodes that are run, in the order of the plan. -/
def planned (w : Workflow) (order : List String) : List Node := order.filterMap w.node?

/-- The node that is found has the identifier that was looked for. -/
lemma of_node? (h : w.node? id = some n) : n ∈ w.nodes ∧ n.id = id :=
  ⟨List.mem_of_find?_eq_some h, by simpa using List.find?_some h⟩

/-- Every identifier of the workflow has a node. -/
lemma exists_node? (hid : id ∈ w.ids) : ∃ n, w.node? id = some n := by
  obtain ⟨n, hn, rfl⟩ := List.mem_map.mp hid
  rw [← Option.isSome_iff_exists, node?, List.find?_isSome]
  exact ⟨n, hn, by simp⟩

/-- Distinct identifiers belong to one node each. -/
lemma node?_of_mem (hids : w.ids.Nodup) (hn : n ∈ w.nodes) : w.node? n.id = some n := by
  obtain ⟨m, hm⟩ := exists_node? (List.mem_map_of_mem hn)
  obtain ⟨hmem, heq⟩ := of_node? hm
  rw [hm, List.inj_on_of_nodup_map hids hmem hn heq]

/-- The planned nodes have the identifiers of the plan. -/
lemma map_id_planned (hplan : w.plan = .ok order) : (w.planned order).map Node.id = order := by
  obtain ⟨hperm, -⟩ := perm_and_ordered_of_plan hplan
  have hfound : ∀ ids : List String, (∀ id ∈ ids, id ∈ w.ids) →
      (ids.filterMap w.node?).map Node.id = ids := by
    intro ids
    induction ids with
    | nil => exact fun _ => rfl
    | cons id ids ih =>
      intro hids
      obtain ⟨n, hn⟩ := exists_node? (hids id List.mem_cons_self)
      rw [List.filterMap_cons_some hn, List.map_cons, (of_node? hn).2,
        ih fun id' hid' => hids id' (List.mem_cons_of_mem _ hid')]
  exact hfound order fun id hid => hperm.mem_iff.mp hid

/-- As many nodes are planned as the plan is long. -/
lemma length_planned (hplan : w.plan = .ok order) : (w.planned order).length = order.length := by
  rw [← List.length_map (f := Node.id), map_id_planned hplan]

/-- All nodes of a workflow are planned. -/
lemma mem_planned (hplan : w.plan = .ok order) : n ∈ w.planned order ↔ n ∈ w.nodes := by
  obtain ⟨hperm, -⟩ := perm_and_ordered_of_plan hplan
  obtain ⟨-, -, hids, -⟩ := plan_eq_ok_iff.mp hplan
  rw [planned, List.mem_filterMap]
  constructor
  · rintro ⟨id, -, hn⟩
    exact (of_node? hn).1
  · intro hn
    exact ⟨n.id, hperm.mem_iff.mpr (List.mem_map_of_mem hn), node?_of_mem hids hn⟩

end Dataflow.Workflow
