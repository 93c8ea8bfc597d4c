import Dataflow.Proofs.Workflow.Plan

/-!
# Valid workflows

What makes a workflow valid is said here without the check and without an order: there is a node,
the identifiers of the nodes are distinct and not empty, their types are not empty, and the edges
between nodes form no cycle. The check passes exactly the valid workflows (`check_eq_ok_iff_valid`).
-/

namespace Dataflow.Workflow

variable {w : Workflow}

/-- A workflow that can be run. Edges that do not join two nodes make no difference. -/
structure Valid (w : Workflow) : Prop where
  nodes : w.nodes ≠ []
  ids : ∀ n ∈ w.nodes, n.id ≠ ""
  types : ∀ n ∈ w.nodes, n.type ≠ ""
  distinct : w.ids.Nodup
  acyclic : ¬ (Graph.ofWorkflow w).Cyclic

/-- The valid workflows are those with a plan. -/
lemma exists_plan_iff_valid : (∃ order, w.plan = .ok order) ↔ w.Valid := by
  constructor
  · rintro ⟨order, hplan⟩
    obtain ⟨hnodes, hne, hids, horder⟩ := plan_eq_ok_iff.mp hplan
    exact ⟨hnodes, fun n hn => (hne n hn).1, fun n hn => (hne n hn).2, hids,
      (Graph.exists_sorted_iff (g := Graph.ofWorkflow w) hids).mp ⟨order, horder⟩⟩
  · intro hvalid
    obtain ⟨order, horder⟩ :=
      (Graph.exists_sorted_iff (g := Graph.ofWorkflow w) hvalid.distinct).mpr hvalid.acyclic
    exact ⟨order, plan_eq_ok_iff.mpr
      ⟨hvalid.nodes, fun n hn => ⟨hvalid.ids n hn, hvalid.types n hn⟩, hvalid.distinct, horder⟩⟩

/-- The check passes the valid workflows. -/
lemma check_eq_ok_iff_valid : w.check = .ok () ↔ w.Valid :=
  check_eq_ok_iff.trans exists_plan_iff_valid

end Dataflow.Workflow
