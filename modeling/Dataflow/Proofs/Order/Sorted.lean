import Dataflow.Proofs.Order.Acyclic

/-!
# What ordering a graph yields

The main result, `order_correct`, is about graphs whose identifiers are distinct: ordering such a
graph ends after at most one pop for each node, all nodes are sorted if and only if no cycle
passes through them, a sorted list holds every node once and every source before its target, and
an edge that does not lead from a node to a node counts for nothing.
-/

namespace Dataflow

namespace Graph

variable {g : Graph} {id : String}

/-! ### Edges that count -/

/-- Whether an edge leads from a node to a node. -/
def joins (g : Graph) (e : Edge) : Bool := g.contains e.source && g.contains e.target

/-- The graph without the edges that do not lead from a node to a node. -/
def trimmed (g : Graph) : Graph := ⟨g.ids, g.edges.filter g.joins⟩

lemma contains_trimmed (g : Graph) (id : String) : g.trimmed.contains id = g.contains id := rfl

/-- The other edges count for no degree. -/
lemma degree_trimmed (g : Graph) (id : String) : g.trimmed.degree id = g.degree id := by
  have hedges : g.trimmed.edges = g.edges.filter g.joins := rfl
  by_cases hid : id ∈ g.ids
  · have hid' : id ∈ g.trimmed.ids := hid
    rw [degree, degree, incoming_of_mem hid, incoming_of_mem hid', hedges, List.filter_filter,
      List.filter_filter, List.filter_filter]
    refine congrArg List.length (List.filter_congr fun e _ => ?_)
    rw [contains_trimmed]
    by_cases h : e.target = id
    · rw [joins, h, contains_iff_mem.mpr hid]
      cases g.contains e.source <;> simp
    · simp [beq_false_of_ne h]
  · have hid' : id ∉ g.trimmed.ids := hid
    rw [degree, degree, incoming_of_not_mem hid, incoming_of_not_mem hid', List.filter_nil,
      List.filter_nil]

/-- The other edges set no node free. -/
lemma outgoing_trimmed (g : Graph) (id : String) :
    g.trimmed.outgoing id = (g.outgoing id).filter fun e => g.contains e.target := by
  have hedges : g.trimmed.edges = g.edges.filter g.joins := rfl
  by_cases hid : id ∈ g.ids
  · have hid' : id ∈ g.trimmed.ids := hid
    rw [outgoing_of_mem hid, outgoing_of_mem hid', hedges, List.filter_filter, List.filter_filter]
    refine List.filter_congr fun e _ => ?_
    by_cases h : e.source = id
    · rw [joins, h, contains_iff_mem.mpr hid, Bool.true_and, Bool.and_comm]
    · simp [beq_false_of_ne h]
  · have hid' : id ∉ g.trimmed.ids := hid
    rw [outgoing_of_not_mem hid, outgoing_of_not_mem hid', List.filter_nil]

/-- The other edges change no layer. -/
lemma layers_trimmed (g : Graph) (rounds : ℕ) {ds : Degrees} (hds : ds.map Prod.fst = g.ids)
    (layer : List String) : g.trimmed.layers rounds ds layer = g.layers rounds ds layer := by
  induction rounds generalizing ds layer with
  | zero => rfl
  | succ rounds ih =>
    have hout : layer.flatMap g.trimmed.outgoing =
        (layer.flatMap g.outgoing).filter fun e => g.contains e.target := by
      rw [List.filter_flatMap]
      exact List.flatMap_congr fun id _ => outgoing_trimmed g id
    have hrelease : ds.release (layer.flatMap g.trimmed.outgoing) =
        ds.release (layer.flatMap g.outgoing) := by
      rw [hout]
      refine Degrees.release_filter fun e _ he => ?_
      rw [hds]
      simpa [contains] using he
    have hds' : (ds.release (layer.flatMap g.outgoing)).1.map Prod.fst = g.ids :=
      (Degrees.map_fst_release _ _).trans hds
    rw [layers, layers, hrelease]
    simp only [ih hds']

/-- The other edges do not count for the order. -/
lemma order_trimmed (g : Graph) : g.trimmed.order = g.order := by
  have hids : g.trimmed.ids = g.ids := rfl
  have hdegree : g.trimmed.degree = g.degree := funext g.degree_trimmed
  have hdegrees : g.trimmed.degrees = g.degrees := by rw [degrees, degrees, hdegree, hids]
  have hfirst : g.trimmed.firstLayer = g.firstLayer := by rw [firstLayer, firstLayer, hdegree, hids]
  have hlisted : g.degrees.map Prod.fst = g.ids := by
    rw [degrees, List.map_map]
    exact List.map_id g.ids
  rw [order, order, hdegrees, hfirst, hids, layers_trimmed g _ hlisted]

/-- Two graphs with the same nodes and the same edges between them are ordered alike. -/
lemma order_eq_of_filter_eq {edges : List Edge}
    (h : edges.filter g.joins = g.edges.filter g.joins) :
    (⟨g.ids, edges⟩ : Graph).order = g.order := by
  have htrimmed : (⟨g.ids, edges⟩ : Graph).trimmed = g.trimmed := by
    rw [trimmed, trimmed]
    exact congrArg (Graph.mk g.ids) h
  rw [← order_trimmed, htrimmed, order_trimmed]

end Graph

namespace Worklist

variable {g : Graph} {w : Worklist}

/-- The pops of a graph with distinct identifiers end, and its order is their outcome. -/
lemma exists_pops_worklist (hids : g.ids.Nodup) :
    ∃ n w, Pops g n g.worklist w ∧ w.queue = [] ∧ g.order = w.outcome g := by
  have hpops := pops_layers g g.ids.length g.degrees g.firstLayer []
  rw [List.nil_append] at hpops
  refine ⟨_, _, hpops, ?_, rfl⟩
  -- a node that waits would be one too many
  by_contra hnext
  have hfound := Graph.le_length_layers hnext
  have hpos := List.length_pos_iff.mpr hnext
  have hle := ((valid_worklist hids).pops hpops).length_le
  simp only at hle hpos
  omega

/-- When no node waits, the nodes that have been emitted are those without a predecessor that is
left. -/
lemma Valid.mem_emitted_iff (hw : w.Valid g) (hqueue : w.queue = []) (id : String) :
    id ∈ w.emitted ↔ id ∈ g.ids ∧ ∀ u, g.Arc u id → u ∈ w.emitted := by
  have hfree := hw.free id
  rw [hqueue, List.append_nil] at hfree
  rw [hfree]
  exact and_congr_right fun hid => Graph.pending_eq_zero_iff hid

/-- When no node waits, all nodes have been emitted unless the graph has a cycle. -/
lemma Valid.perm_of_acyclic (hw : w.Valid g) (hqueue : w.queue = []) (hids : g.ids.Nodup)
    (hacyclic : ¬ g.Cyclic) : w.emitted.Perm g.ids := by
  have hemitted : w.emitted.Nodup := (List.nodup_append.mp hw.distinct).1
  rw [List.perm_ext_iff_of_nodup hemitted hids]
  refine fun id => ⟨fun h => ((hw.mem_emitted_iff hqueue id).mp h).1, fun hid => ?_⟩
  by_contra hnot
  have hleft : {v | v ∈ g.ids ∧ v ∉ w.emitted}.Nonempty := ⟨id, hid, hnot⟩
  refine hacyclic (Graph.cyclic_of_stuck hleft fun v hv => ?_)
  by_contra hpred
  refine hv.2 ((hw.mem_emitted_iff hqueue v).mpr ⟨hv.1, fun u harc => ?_⟩)
  by_contra hu
  exact hpred ⟨u, ⟨harc.1, hu⟩, harc⟩

end Worklist

namespace Graph

/-! ### The main result -/

/-- A sorted order is what the last worklist has emitted. -/
lemma emitted_of_sorted {g : Graph} {w : Worklist} {order : List String}
    (h : w.outcome g = .sorted order) : w.emitted = order ∧ g.ids.length ≤ w.emitted.length := by
  unfold Worklist.outcome at h
  split at h
  · cases h
  · rename_i hlength
    exact ⟨Order.sorted.inj h, Nat.not_lt.mp hlength⟩

/-- A sorted order holds every node once and is ordered. -/
lemma perm_and_ordered_of_sorted {g : Graph} (hids : g.ids.Nodup) {order : List String}
    (h : g.order = .sorted order) : order.Perm g.ids ∧ g.Ordered order := by
  obtain ⟨n, w, hpops, hqueue, horder⟩ := Worklist.exists_pops_worklist hids
  have hw := (Worklist.valid_worklist hids).pops hpops
  obtain ⟨rfl, hlength⟩ := emitted_of_sorted (horder ▸ h)
  have hdistinct : w.emitted.Nodup := (List.nodup_append.mp hw.distinct).1
  have hsub : w.emitted.Subperm g.ids :=
    hdistinct.subperm fun id hid => ((hw.mem_emitted_iff hqueue id).mp hid).1
  exact ⟨hsub.perm_of_length_le hlength, hw.ordered⟩

/-- A graph that has a list of all nodes in order has no cycle. -/
lemma Ordered.not_cyclic {g : Graph} {l : List String} (hl : g.Ordered l)
    (hall : ∀ id ∈ g.ids, id ∈ l) : ¬ g.Cyclic := by
  rintro ⟨id, hid⟩
  obtain ⟨u, harc, -⟩ := Relation.TransGen.head'_iff.mp hid
  exact absurd (hl.lt_of_transGen hid (hall id harc.1)).2 (lt_irrefl _)

/-- A graph with distinct identifiers can be sorted if and only if its edges between nodes form no
cycle. -/
lemma exists_sorted_iff {g : Graph} (hids : g.ids.Nodup) :
    (∃ order, g.order = .sorted order) ↔ ¬ g.Cyclic := by
  constructor
  · rintro ⟨order, h⟩
    obtain ⟨hperm, hordered⟩ := perm_and_ordered_of_sorted hids h
    exact hordered.not_cyclic fun id hid => hperm.mem_iff.mpr hid
  · intro hacyclic
    obtain ⟨n, w, hpops, hqueue, horder⟩ := Worklist.exists_pops_worklist hids
    have hperm := ((Worklist.valid_worklist hids).pops hpops).perm_of_acyclic hqueue hids hacyclic
    refine ⟨w.emitted, ?_⟩
    rw [horder, Worklist.outcome, if_neg (by rw [hperm.length_eq]; exact lt_irrefl _)]

/-- Ordering a graph with distinct identifiers. There are at most as many pops as nodes, whatever
run of pops is looked at; one run empties the queue, emits no node twice, and yields the order. The
order is a sorted one if and only if no cycle passes through the nodes. A sorted one holds every
node once, and the source of every edge between nodes before its target. Other edges make no
difference. -/
theorem order_topological (g : Graph) (hids : g.ids.Nodup) :
    (∀ n w, Worklist.Pops g n g.worklist w → n ≤ g.ids.length) ∧
    (∃ n w, Worklist.Pops g n g.worklist w ∧ w.queue = [] ∧ w.emitted.Nodup ∧
      g.order = w.outcome g) ∧
    ((∃ order, g.order = .sorted order) ↔ ¬ g.Cyclic) ∧
    (∀ order, g.order = .sorted order → order.Perm g.ids ∧
      ∀ e ∈ g.edges, e.source ∈ g.ids → e.target ∈ g.ids →
        order.idxOf e.source < order.idxOf e.target) ∧
    (∀ edges : List Edge, edges.filter g.joins = g.edges.filter g.joins →
      (⟨g.ids, edges⟩ : Graph).order = g.order) := by
  have hstart := Worklist.valid_worklist hids
  obtain ⟨n, w, hpops, hqueue, horder⟩ := Worklist.exists_pops_worklist hids
  have hw := hstart.pops hpops
  have hdistinct : w.emitted.Nodup := (List.nodup_append.mp hw.distinct).1
  refine ⟨fun m w' hpops' => ?_, ⟨n, w, hpops, hqueue, hdistinct, horder⟩,
    ⟨?_, fun h => ?_⟩, fun order h => ?_, fun edges h => order_eq_of_filter_eq h⟩
  · have hlength := Worklist.length_emitted_of_pops hpops'
    have hle := (hstart.pops hpops').length_le
    simp only [worklist, List.length_nil] at hlength
    omega
  · rintro ⟨order, h⟩
    obtain ⟨hperm, hordered⟩ := perm_and_ordered_of_sorted hids h
    exact hordered.not_cyclic fun id hid => hperm.mem_iff.mpr hid
  · have hperm := hw.perm_of_acyclic hqueue hids h
    refine ⟨w.emitted, ?_⟩
    rw [horder, Worklist.outcome, if_neg (by rw [hperm.length_eq]; exact lt_irrefl _)]
  · obtain ⟨hperm, hordered⟩ := perm_and_ordered_of_sorted hids h
    exact ⟨hperm, fun e he hsource htarget =>
      (hordered.idxOf_lt ⟨hsource, htarget, e, he, rfl, rfl⟩ (hperm.mem_iff.mpr htarget)).2⟩

/-- Two nodes joined by two edges, a third that both lead to, one apart, and edges that lead from
or to no node. -/
theorem order_topological_parallel_edges :
    let g : Graph := ⟨["c", "a", "b", "d"],
      [.between "seed" "a", .between "a" "b", ⟨"a", "b", "x", "y"⟩, .between "b" "c",
        .between "a" "c", .between "c" "elsewhere"]⟩
    g.ids.Nodup ∧ g.order = .sorted ["a", "d", "b", "c"] ∧ ¬ g.Cyclic := by
  intro g
  have hids : g.ids.Nodup := by decide
  have horder : g.order = .sorted ["a", "d", "b", "c"] := by decide
  exact ⟨hids, horder, (order_topological g hids).2.2.1.mp ⟨_, horder⟩⟩

end Graph

end Dataflow
