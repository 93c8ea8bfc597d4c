import Dataflow.Proofs.Order.Sorted

/-!
# What a cycle blocks

When a graph cannot be sorted, its order tells which nodes could be ordered and which are blocked.
No node is lost between the two lists, and a node is blocked if and only if it lies on a cycle or
behind one (`blocked_of_cyclic`). The nodes that are left when no node waits each have a predecessor
among them; so do those of them that lead to a given one, and one of these is on a cycle
(`Worklist.Valid.not_mem_emitted_iff`).
-/

namespace Dataflow

namespace Graph

/-- The node lies on a cycle of edges between nodes, or can be reached from one. -/
def BehindCycle (g : Graph) (id : String) : Prop :=
  ∃ u, Relation.TransGen g.Arc u u ∧ Relation.ReflTransGen g.Arc u id

variable {g : Graph} {l ordered blocked : List String} {u v : String}

/-- What leads to a node of an ordered list stands in the list. -/
lemma Ordered.mem_of_reflTransGen (hl : g.Ordered l) (h : Relation.ReflTransGen g.Arc u v)
    (hv : v ∈ l) : u ∈ l := by
  rcases Relation.reflTransGen_iff_eq_or_transGen.mp h with rfl | h
  · exact hv
  · exact (hl.lt_of_transGen h hv).1

/-- No node of an ordered list lies behind a cycle. -/
lemma Ordered.not_behindCycle (hl : g.Ordered l) (hv : v ∈ l) : ¬ g.BehindCycle v := by
  rintro ⟨u, hcycle, hreach⟩
  have hu : u ∈ l := hl.mem_of_reflTransGen hreach hv
  exact absurd (hl.lt_of_transGen hcycle hu).2 (lt_irrefl _)

end Graph

namespace Worklist

variable {g : Graph} {w : Worklist} {id : String}

/-- When no node waits, the nodes that are left are those that lie behind a cycle. -/
lemma Valid.not_mem_emitted_iff (hw : w.Valid g) (hqueue : w.queue = []) (hid : id ∈ g.ids) :
    id ∉ w.emitted ↔ g.BehindCycle id := by
  constructor
  · intro hnot
    -- the nodes left that lead to this one
    let left : Set String :=
      {v | (v ∈ g.ids ∧ v ∉ w.emitted) ∧ Relation.ReflTransGen g.Arc v id}
    have hpred : ∀ v ∈ left, ∃ u ∈ left, g.Arc u v := by
      rintro v ⟨⟨hvids, hv⟩, hreach⟩
      by_contra hnone
      refine hv ((hw.mem_emitted_iff hqueue v).mpr ⟨hvids, fun u harc => ?_⟩)
      by_contra hu
      exact hnone ⟨u, ⟨⟨harc.1, hu⟩, hreach.head harc⟩, harc⟩
    have hleft : left.Nonempty := ⟨id, ⟨hid, hnot⟩, .refl⟩
    obtain ⟨u, ⟨-, hreach⟩, hcycle⟩ := Graph.exists_cycle_of_stuck hleft hpred
    exact ⟨u, hcycle, hreach⟩
  · exact fun hbehind hmem => hw.ordered.not_behindCycle hmem hbehind

/-- When no node waits, the nodes with edges left are those that have not been emitted. -/
lemma Valid.filter_degrees (hw : w.Valid g) (hqueue : w.queue = []) :
    (g.ids.filter fun id => (w.degrees.lookup id).any (0 < ·)) =
      g.ids.filter fun id => !w.emitted.contains id := by
  refine List.filter_congr fun id hid => ?_
  have hfree := hw.free id
  rw [hqueue, List.append_nil] at hfree
  rw [hw.degree id hid, Option.any_some, Bool.eq_iff_iff, decide_eq_true_eq, Bool.not_eq_true',
    List.contains_eq_mem, decide_eq_false_iff_not, hfree, Nat.pos_iff_ne_zero]
  exact ⟨fun hpending h => hpending h.2, fun h hzero => h ⟨hid, hzero⟩⟩

end Worklist

namespace Graph

variable {g : Graph} {ordered blocked : List String}

/-- A cyclic order is what the last worklist has emitted, with the nodes that it has not. -/
lemma emitted_of_cyclic {w : Worklist} (hw : w.Valid g) (hqueue : w.queue = [])
    (h : w.outcome g = .cyclic ordered blocked) :
    w.emitted = ordered ∧ blocked = (g.ids.filter fun id => !ordered.contains id) ∧
      ordered.length < g.ids.length := by
  unfold Worklist.outcome at h
  split at h
  · rename_i hlength
    obtain ⟨rfl, rfl⟩ := Order.cyclic.inj h
    exact ⟨rfl, hw.filter_degrees hqueue, hlength⟩
  · cases h

/-- An order that reports a cycle. The ordered and the blocked nodes are all nodes, each once. Some
are blocked, they stand in declaration order, and they are the nodes on a cycle or behind one. An
edge from a node into an ordered one comes from a node that stands before it among the ordered. -/
theorem blocked_of_cyclic (g : Graph) (hids : g.ids.Nodup)
    (h : g.order = .cyclic ordered blocked) :
    (ordered ++ blocked).Perm g.ids ∧ blocked ≠ [] ∧ blocked.Sublist g.ids ∧
      (∀ id, id ∈ blocked ↔ id ∈ g.ids ∧ g.BehindCycle id) ∧
      ∀ e ∈ g.edges, e.source ∈ g.ids → e.target ∈ ordered →
        e.source ∈ ordered ∧ ordered.idxOf e.source < ordered.idxOf e.target := by
  obtain ⟨n, w, hpops, hqueue, horder⟩ := Worklist.exists_pops_worklist hids
  have hw := (Worklist.valid_worklist hids).pops hpops
  obtain ⟨rfl, hblocked, hlength⟩ := emitted_of_cyclic hw hqueue (horder ▸ h)
  have hemitted : ∀ id ∈ w.emitted, id ∈ g.ids := fun id hid =>
    ((hw.mem_emitted_iff hqueue id).mp hid).1
  have hmem : ∀ id, id ∈ blocked ↔ id ∈ g.ids ∧ id ∉ w.emitted := by
    simp [hblocked, List.mem_filter]
  have hperm : (w.emitted ++ blocked).Perm g.ids := by
    have hdistinct : (w.emitted ++ blocked).Nodup := by
      refine List.nodup_append'.mpr
        ⟨(List.nodup_append.mp hw.distinct).1, hblocked ▸ hids.filter _, fun id hid hleft => ?_⟩
      exact ((hmem id).mp hleft).2 hid
    refine (List.perm_ext_iff_of_nodup hdistinct hids).mpr fun id => ?_
    rw [List.mem_append, hmem]
    constructor
    · rintro (hid | ⟨hid, -⟩)
      · exact hemitted id hid
      · exact hid
    · intro hid
      by_cases hdone : id ∈ w.emitted
      · exact Or.inl hdone
      · exact Or.inr ⟨hid, hdone⟩
  refine ⟨hperm, ?_, hblocked ▸ List.filter_sublist, fun id => ?_, fun e he hsource htarget => ?_⟩
  · rintro rfl
    have := hperm.length_eq
    simp only [List.append_nil] at this
    omega
  · rw [hmem]
    exact and_congr_right fun hid => hw.not_mem_emitted_iff hqueue hid
  · exact hw.ordered.idxOf_lt ⟨hsource, hemitted _ htarget, e, he, rfl, rfl⟩ htarget

/-- Two nodes on a cycle and one behind it, declared before and after one that is free; the free
node has an edge into the cycle, and a second edge runs along the cycle. -/
theorem blocked_of_cyclic_behind :
    let g : Graph := ⟨["z", "x", "a", "y", "b"],
      [.between "x" "y", .between "y" "x", ⟨"x", "y", "more", "more"⟩, .between "y" "z",
        .between "a" "x", .between "a" "b", .between "seed" "a"]⟩
    g.ids.Nodup ∧ g.order = .cyclic ["a", "b"] ["z", "x", "y"] ∧ g.BehindCycle "z" ∧
      ¬ g.BehindCycle "b" := by
  intro g
  have hids : g.ids.Nodup := by decide
  have horder : g.order = .cyclic ["a", "b"] ["z", "x", "y"] := by decide
  obtain ⟨-, -, -, hblocked, -⟩ := blocked_of_cyclic g hids horder
  refine ⟨hids, horder, ((hblocked "z").mp (by decide)).2, fun hb => ?_⟩
  exact absurd ((hblocked "b").mpr ⟨by decide, hb⟩) (by decide)

end Graph

end Dataflow
