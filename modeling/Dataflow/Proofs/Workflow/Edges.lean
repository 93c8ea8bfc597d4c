import Dataflow.Workflow.Graph
import Mathlib.Tactic

/-!
# The edges at a node

The edges into a node and out of it are those of the graph that end or begin there, in the same
order (`Graph.incoming_of_mem`, `Graph.outgoing_of_mem`); what is not a node has none.
-/

namespace Dataflow.Graph

variable {g : Graph} {id : String} {edge : Edge}

@[simp] lemma contains_iff_mem : g.contains id = true ↔ id ∈ g.ids :=
  List.contains_iff_mem

lemma incoming_of_mem (hid : id ∈ g.ids) :
    g.incoming id = g.edges.filter fun e => e.target == id :=
  if_pos (contains_iff_mem.mpr hid)

lemma incoming_of_not_mem (hid : id ∉ g.ids) : g.incoming id = [] :=
  if_neg (contains_iff_mem.not.mpr hid)

lemma outgoing_of_mem (hid : id ∈ g.ids) :
    g.outgoing id = g.edges.filter fun e => e.source == id :=
  if_pos (contains_iff_mem.mpr hid)

lemma outgoing_of_not_mem (hid : id ∉ g.ids) : g.outgoing id = [] :=
  if_neg (contains_iff_mem.not.mpr hid)

/-- The edges into a node are those of the graph that have it as their target. -/
lemma mem_incoming : edge ∈ g.incoming id ↔ id ∈ g.ids ∧ edge ∈ g.edges ∧ edge.target = id := by
  by_cases hid : id ∈ g.ids
  · simp [incoming_of_mem, hid]
  · simp [incoming_of_not_mem, hid]

/-- The edges out of a node are those of the graph that have it as their source. -/
lemma mem_outgoing : edge ∈ g.outgoing id ↔ id ∈ g.ids ∧ edge ∈ g.edges ∧ edge.source = id := by
  by_cases hid : id ∈ g.ids
  · simp [outgoing_of_mem, hid]
  · simp [outgoing_of_not_mem, hid]

end Dataflow.Graph
