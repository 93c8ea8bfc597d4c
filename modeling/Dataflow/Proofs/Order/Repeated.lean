import Dataflow.Proofs.Order.Canonical

/-!
# Nodes declared more than once

An order is asked for before it is known whether the identifiers of the nodes are distinct. The
degrees are listed by identifier and the nodes that wait by declaration, so a node may be emitted
several times: a node that no edge enters as often as it is declared, and any other node once, and
once more for every time too often that the source of an edge into it is emitted (`Graph.Emits`).
A graph without a cycle is declared to have one if there are more declarations than emissions
(`Graph.order_of_acyclic`), although no node is blocked.

The emissions are known from the edges taken away (`Worklist.Accounted`). That they end is seen by
the layers: a node of the layer after `n` rounds has a path of `n` edges behind it, and there is no
path of as many edges as there are nodes (`Graph.PathTo.lt_length`).
-/

namespace Dataflow

namespace Graph

variable {g : Graph} {u v id : String} {l : List String} {m n : ℕ}

/-! ## Paths of graphs without cycles -/

section Ancestors

open Classical

/-- The nodes that lead to a node. -/
noncomputable def ancestors (g : Graph) (v : String) : Finset String :=
  g.ids.toFinset.filter fun u => Relation.TransGen g.Arc u v

/-- A node leads to what it leads to, besides the nodes that lead to it. -/
lemma card_ancestors_lt (hacyclic : ¬ g.Cyclic) (harc : g.Arc u v) :
    (g.ancestors u).card < (g.ancestors v).card := by
  refine Finset.card_lt_card (Finset.ssubset_iff_of_subset ?_ |>.mpr ⟨u, ?_, ?_⟩)
  · intro w hw
    obtain ⟨hmem, hpath⟩ := Finset.mem_filter.mp hw
    exact Finset.mem_filter.mpr ⟨hmem, hpath.tail harc⟩
  · exact Finset.mem_filter.mpr ⟨List.mem_toFinset.mpr harc.1, .single harc⟩
  · exact fun hu => hacyclic ⟨u, (Finset.mem_filter.mp hu).2⟩

/-- Without a cycle there are as many nodes that lead to a node as edges on a path to it. -/
lemma PathTo.le_card_ancestors (hacyclic : ¬ g.Cyclic) (path : g.PathTo n v) :
    n ≤ (g.ancestors v).card := by
  induction path with
  | start => exact Nat.zero_le _
  | step _ harc ih => exact ih.trans_lt (card_ancestors_lt hacyclic harc)

/-- Without a cycle all paths have less edges than there are nodes. -/
lemma PathTo.lt_length (hacyclic : ¬ g.Cyclic) (hv : v ∈ g.ids) (path : g.PathTo n v) :
    n < g.ids.length := by
  have hproper : g.ancestors v ⊂ g.ids.toFinset := by
    refine Finset.filter_ssubset.mpr ⟨v, List.mem_toFinset.mpr hv, fun hcycle => ?_⟩
    exact hacyclic ⟨v, hcycle⟩
  calc n ≤ (g.ancestors v).card := path.le_card_ancestors hacyclic
    _ < g.ids.toFinset.card := Finset.card_lt_card hproper
    _ ≤ g.ids.length := List.toFinset_card_le _

end Ancestors

/-- A path leads to each node of a layer, one edge longer with each round. -/
lemma pathTo_nextLayer {ds : Degrees} {layer : List String} (hds : ds.map Prod.fst = g.ids)
    (hlayer : ∀ v ∈ layer, v ∈ g.ids ∧ g.PathTo m v) (hv : v ∈ g.nextLayer n ds layer) :
    v ∈ g.ids ∧ g.PathTo (m + n) v := by
  induction n generalizing m ds layer with
  | zero => exact hlayer v hv
  | succ n ih =>
    rw [show m + (n + 1) = m + 1 + n by omega]
    refine ih ((Degrees.map_fst_release _ _).trans hds) (fun b hb => ?_) hv
    obtain ⟨⟨d, hd⟩, e, he, rfl⟩ := Degrees.exists_of_mem_release hb
    have hids : e.target ∈ g.ids := by
      obtain ⟨before, after, rfl, -⟩ := List.lookup_eq_some_iff.mp hd
      rw [← hds]
      simp
    obtain ⟨u, hu, hout⟩ := List.mem_flatMap.mp he
    obtain ⟨hmem, hpath⟩ := hlayer u hu
    obtain ⟨-, hedge, hsource⟩ := mem_outgoing.mp hout
    exact ⟨hids, hpath.step ⟨hmem, hids, e, hedge, hsource, rfl⟩⟩

/-- Without a cycle no layer is left after as many rounds as there are nodes. -/
lemma nextLayer_eq_nil (hacyclic : ¬ g.Cyclic) :
    g.nextLayer g.ids.length g.degrees g.firstLayer = [] := by
  have hlisted : g.degrees.map Prod.fst = g.ids := by
    rw [degrees, List.map_map]
    exact List.map_id g.ids
  have hfirst : ∀ v ∈ g.firstLayer, v ∈ g.ids ∧ g.PathTo 0 v := fun v hv =>
    ⟨(List.mem_filter.mp hv).1, .start v⟩
  refine List.eq_nil_iff_forall_not_mem.mpr fun v hv => ?_
  obtain ⟨hmem, hpath⟩ := pathTo_nextLayer hlisted hfirst hv
  exact absurd (hpath.lt_length hacyclic hmem) (by omega)

/-- The graph with each node declared once. -/
def once (g : Graph) : Graph := ⟨g.ids.dedup, g.edges⟩

/-- Repeated declarations make no cycle: a graph has none if its nodes can be sorted when they are
declared once. -/
lemma exists_sorted_once_iff (g : Graph) :
    (∃ order, g.once.order = .sorted order) ↔ ¬ g.Cyclic := by
  have harc : g.once.Arc = g.Arc := by
    funext u v
    simp [Arc, once]
  rw [exists_sorted_iff (List.nodup_dedup g.ids), Cyclic, Cyclic, harc]

/-! ## Predecessors -/

/-- The sources of the edges from nodes into a node, one for each edge. -/
def predecessors (g : Graph) (id : String) : List String :=
  ((g.incoming id).filter fun e => g.contains e.source).map Edge.source

lemma length_predecessors (g : Graph) (id : String) :
    (g.predecessors id).length = g.degree id := by
  rw [predecessors, List.length_map, degree]

/-- An arc leads from each predecessor. -/
lemma mem_predecessors_iff : u ∈ g.predecessors id ↔ g.Arc u id := by
  rw [predecessors, List.mem_map]
  simp only [List.mem_filter, mem_incoming, contains_iff_mem]
  constructor
  · rintro ⟨e, ⟨⟨hid, hmem, htarget⟩, hsource⟩, rfl⟩
    exact ⟨hsource, hid, e, hmem, rfl, htarget⟩
  · rintro ⟨hu, hid, e, hmem, rfl, htarget⟩
    exact ⟨e, ⟨⟨hid, hmem, htarget⟩, hu⟩, rfl⟩

/-- A root is a node without predecessors. -/
lemma isRoot_iff : g.IsRoot id ↔ g.predecessors id = [] := by
  rw [List.eq_nil_iff_forall_not_mem]
  exact forall_congr' fun u => not_congr mem_predecessors_iff.symm

/-- The edges from one node to another, counted at either end. -/
lemma countP_outgoing (hid : id ∈ g.ids) (u : String) :
    ((g.outgoing u).countP fun e => e.target == id) = (g.predecessors id).count u := by
  rw [predecessors, incoming_of_mem hid, List.count, List.countP_map, List.countP_filter,
    List.countP_filter]
  by_cases hu : u ∈ g.ids
  · rw [outgoing_of_mem hu, List.countP_filter]
    refine List.countP_congr fun e _ => ?_
    simp only [Bool.and_eq_true, beq_iff_eq, Function.comp_apply, contains_iff_mem]
    constructor
    · rintro ⟨htarget, rfl⟩
      exact ⟨⟨rfl, hu⟩, htarget⟩
    · rintro ⟨⟨hsource, -⟩, htarget⟩
      exact ⟨htarget, hsource⟩
  · rw [outgoing_of_not_mem hu, List.countP_nil, eq_comm, List.countP_eq_zero]
    rintro e - h
    simp only [Bool.and_eq_true, beq_iff_eq, Function.comp_apply, contains_iff_mem] at h
    exact hu (h.1.1 ▸ h.1.2)

/-- How often a list holds the members of another list, if it gets one more member. -/
lemma sum_map_count_cons (u : String) (l ps : List String) :
    (ps.map (u :: l).count).sum = ps.count u + (ps.map l.count).sum := by
  induction ps with
  | nil => rfl
  | cons p ps ih =>
    rw [List.map_cons, List.sum_cons, ih, List.map_cons, List.sum_cons, List.count_cons,
      List.count_cons, Bool.beq_comm]
    omega

/-- As many edges into a node are taken away as its predecessors are emitted. -/
lemma countP_flatMap_outgoing (hid : id ∈ g.ids) (l : List String) :
    ((l.flatMap g.outgoing).countP fun e => e.target == id) =
      ((g.predecessors id).map l.count).sum := by
  induction l with
  | nil => simp
  | cons u l ih =>
    rw [List.flatMap_cons, List.countP_append, ih, countP_outgoing hid, sum_map_count_cons]

end Graph

namespace Worklist

variable {g : Graph} {w w' : Worklist} {id : String} {n : ℕ}

/-! ## What a run of pops emits -/

/-- The invariant of a run of pops, whether or not the nodes are distinct: the edges out of the
emitted nodes have been taken away, and the nodes set free by this have joined. -/
structure Accounted (g : Graph) (w : Worklist) : Prop where
  degrees : w.degrees = (g.degrees.release (w.emitted.flatMap g.outgoing)).1
  joined : w.emitted ++ w.queue =
    g.firstLayer ++ (g.degrees.release (w.emitted.flatMap g.outgoing)).2

lemma accounted_worklist (g : Graph) : g.worklist.Accounted g where
  degrees := rfl
  joined := by simp [Graph.worklist, Degrees.release]

/-- A pop keeps the invariant. -/
lemma Accounted.pop (hw : w.Accounted g) (hpop : w.pop g = some w') : w'.Accounted g := by
  obtain ⟨u, rest, hqueue, rfl⟩ := eq_of_pop hpop
  have hsplit : (w.emitted ++ [u]).flatMap g.outgoing =
      w.emitted.flatMap g.outgoing ++ g.outgoing u := by simp
  have hjoined := hw.joined
  rw [hqueue] at hjoined
  constructor
  · simp only [hsplit, Degrees.release_append, ← hw.degrees]
  · simp only [hsplit, Degrees.release_append, ← hw.degrees]
    rw [← List.append_assoc g.firstLayer, ← hjoined]
    simp

/-- A run of pops keeps the invariant. -/
lemma Accounted.pops (hw : w.Accounted g) (h : Pops g n w w') : w'.Accounted g := by
  induction h with
  | refl w => exact hw
  | step hpop _ ih => exact ih (hw.pop hpop)

/-- How often a node has been emitted or waits: as often as it is declared if nothing has to be
emitted before it, and once for each edge taken away after all of them could have been. -/
lemma Accounted.count (hw : w.Accounted g) (hid : id ∈ g.ids) :
    (w.emitted ++ w.queue).count id = (if g.predecessors id = [] then g.ids.count id else 0) +
      (((g.predecessors id).map w.emitted.count).sum - ((g.predecessors id).length - 1)) := by
  rw [hw.joined, List.count_append, Degrees.count_release (lookup_degrees hid),
    Graph.countP_flatMap_outgoing hid, Graph.length_predecessors]
  congr 1
  have hzero : g.predecessors id = [] ↔ g.degree id = 0 := by
    rw [← List.length_eq_zero_iff, Graph.length_predecessors]
  by_cases hroot : g.predecessors id = []
  · rw [if_pos hroot]
    exact List.count_filter (by simpa using hzero.mp hroot)
  · rw [if_neg hroot]
    refine List.count_eq_zero_of_not_mem fun h => hroot (hzero.mpr ?_)
    simpa using (List.mem_filter.mp h).2

/-- The number of edges listed for a node that has not been left without one. -/
lemma Accounted.lookup (hw : w.Accounted g) (hid : id ∈ g.ids) :
    w.degrees.lookup id = some ((g.predecessors id).length -
      ((g.predecessors id).map w.emitted.count).sum) := by
  rw [hw.degrees, Degrees.lookup_release, lookup_degrees hid, Option.map_some,
    Graph.countP_flatMap_outgoing hid, Graph.length_predecessors]

/-- Only nodes are emitted. -/
lemma Accounted.mem_ids (hw : w.Accounted g) (hid : id ∈ w.emitted) : id ∈ g.ids := by
  have hmem : id ∈ w.emitted ++ w.queue := List.mem_append_left _ hid
  rw [hw.joined] at hmem
  rcases List.mem_append.mp hmem with h | h
  · exact (List.mem_filter.mp h).1
  · obtain ⟨⟨d, hd⟩, -⟩ := Degrees.exists_of_mem_release h
    obtain ⟨before, after, hlisted, -⟩ := List.lookup_eq_some_iff.mp hd
    have hentry : (id, d) ∈ g.degrees := by simp [hlisted]
    obtain ⟨id', hid', heq⟩ := List.mem_map.mp hentry
    exact (Prod.mk.inj heq).1 ▸ hid'

/-- Without a cycle all nodes are emitted: one that is not has a predecessor that is not. -/
lemma Accounted.mem_emitted (hw : w.Accounted g) (hqueue : w.queue = []) (hacyclic : ¬ g.Cyclic)
    (hid : id ∈ g.ids) : id ∈ w.emitted := by
  by_contra hnot
  have hleft : {v | v ∈ g.ids ∧ v ∉ w.emitted}.Nonempty := ⟨id, hid, hnot⟩
  refine hacyclic (Graph.cyclic_of_stuck hleft ?_)
  rintro v ⟨hv, hvnot⟩
  by_contra hpred
  have hcount := hw.count hv
  rw [hqueue, List.append_nil, List.count_eq_zero_of_not_mem hvnot] at hcount
  by_cases hroot : g.predecessors v = []
  · have := List.count_pos_iff.mpr hv
    rw [if_pos hroot] at hcount
    omega
  · have hall : ∀ p ∈ g.predecessors v, 1 ≤ w.emitted.count p := by
      intro p hp
      have harc := Graph.mem_predecessors_iff.mp hp
      refine List.count_pos_iff.mpr (by_contra fun hpnot => hpred ?_)
      exact ⟨p, ⟨harc.1, hpnot⟩, harc⟩
    have hsum := List.card_nsmul_le_sum ((g.predecessors v).map w.emitted.count) 1
      (by simpa using hall)
    rw [List.length_map, smul_eq_mul, mul_one] at hsum
    have hpos := List.length_pos_iff.mpr hroot
    omega

end Worklist

namespace Graph

variable {g : Graph} {times times' : String → ℕ}

/-- How often the nodes are emitted: a root as often as it is declared, and any other node once,
and once more for every time too often that the source of an edge into it is emitted. -/
structure Emits (g : Graph) (times : String → ℕ) : Prop where
  root : ∀ id ∈ g.ids, g.IsRoot id → times id = g.ids.count id
  entered : ∀ id ∈ g.ids, ¬ g.IsRoot id →
    times id = 1 + ((g.predecessors id).map fun p => times p - 1).sum

/-- Every node is emitted. -/
lemma Emits.pos (h : g.Emits times) {id : String} (hid : id ∈ g.ids) : 0 < times id := by
  by_cases hroot : g.IsRoot id
  · rw [h.root id hid hroot]
    exact List.count_pos_iff.mpr hid
  · rw [h.entered id hid hroot]
    omega

/-- Without a cycle the numbers are determined by each other. -/
lemma Emits.unique (hacyclic : ¬ g.Cyclic) (h : g.Emits times) (h' : g.Emits times') {id : String}
    (hid : id ∈ g.ids) : times id = times' id := by
  by_contra hne
  have hleft : {v | v ∈ g.ids ∧ times v ≠ times' v}.Nonempty := ⟨id, hid, hne⟩
  refine hacyclic (cyclic_of_stuck hleft ?_)
  rintro v ⟨hv, hvne⟩
  by_contra hpred
  refine hvne ?_
  by_cases hroot : g.IsRoot v
  · rw [h.root v hv hroot, h'.root v hv hroot]
  · rw [h.entered v hv hroot, h'.entered v hv hroot]
    refine congrArg (fun ps => 1 + List.sum ps) (List.map_congr_left fun p hp => ?_)
    have harc := mem_predecessors_iff.mp hp
    have heq : times p = times' p := by_contra fun hpne => hpred ⟨p, ⟨harc.1, hpne⟩, harc⟩
    rw [heq]

/-- A sum of positive numbers, taken apart into ones and what is above them. -/
lemma sum_map_pos {ps : List String} (hpos : ∀ p ∈ ps, 0 < times p) :
    (ps.map times).sum = (ps.map fun p => times p - 1).sum + ps.length := by
  induction ps with
  | nil => rfl
  | cons p ps ih =>
    obtain ⟨hp, hps⟩ := List.forall_mem_cons.mp hpos
    rw [List.map_cons, List.sum_cons, ih hps, List.map_cons, List.sum_cons, List.length_cons]
    omega

end Graph

namespace Worklist

variable {g : Graph} {w : Worklist}

/-- Without a cycle all predecessors of a node are emitted, some of them perhaps too often. -/
lemma Accounted.sum_count (hw : w.Accounted g) (hqueue : w.queue = []) (hacyclic : ¬ g.Cyclic)
    (id : String) : ((g.predecessors id).map w.emitted.count).sum =
      ((g.predecessors id).map fun p => w.emitted.count p - 1).sum +
        (g.predecessors id).length := by
  refine Graph.sum_map_pos fun p hp => List.count_pos_iff.mpr ?_
  exact hw.mem_emitted hqueue hacyclic (Graph.mem_predecessors_iff.mp hp).1

/-- Without a cycle the numbers of emissions are as described when no node waits any more. -/
lemma Accounted.emits (hw : w.Accounted g) (hqueue : w.queue = []) (hacyclic : ¬ g.Cyclic) :
    g.Emits w.emitted.count := by
  have hcount : ∀ id ∈ g.ids, w.emitted.count id =
      (if g.predecessors id = [] then g.ids.count id else 0) +
        (((g.predecessors id).map w.emitted.count).sum - ((g.predecessors id).length - 1)) := by
    intro id hid
    rw [← hw.count hid, hqueue, List.append_nil]
  refine ⟨fun id hid hroot => ?_, fun id hid hroot => ?_⟩
  · rw [hcount id hid, Graph.isRoot_iff.mp hroot]
    simp
  · have hne : g.predecessors id ≠ [] := fun h => hroot (Graph.isRoot_iff.mpr h)
    have hpos := List.length_pos_iff.mpr hne
    rw [hcount id hid, if_neg hne, hw.sum_count hqueue hacyclic]
    omega

/-- Without a cycle no edges are left when no node waits any more. -/
lemma Accounted.lookup_eq_zero (hw : w.Accounted g) (hqueue : w.queue = []) (hacyclic : ¬ g.Cyclic)
    {id : String} (hid : id ∈ g.ids) : w.degrees.lookup id = some 0 := by
  rw [hw.lookup hid, hw.sum_count hqueue hacyclic, Option.some_inj]
  omega

end Worklist

namespace Graph

variable {g : Graph}

/-- The pops of a graph without a cycle end, and its order is their outcome. -/
lemma exists_pops_of_acyclic (hacyclic : ¬ g.Cyclic) :
    ∃ n w, Worklist.Pops g n g.worklist w ∧ w.queue = [] ∧ w.Accounted g ∧
      g.order = w.outcome g := by
  have hpops := Worklist.pops_layers g g.ids.length g.degrees g.firstLayer []
  rw [List.nil_append, nextLayer_eq_nil hacyclic] at hpops
  exact ⟨_, _, hpops, rfl, (Worklist.accounted_worklist g).pops hpops, rfl⟩

/-- Ordering a graph whose edges between nodes form no cycle; its nodes may be declared more than
once. The pops end, and every node is emitted, though some are emitted too often. The order is
sorted if and only if there are at least as many emissions as declarations, for instance if each
node that is entered by an edge from a node is declared once. Otherwise a cycle is reported that
blocks no node. -/
theorem order_of_acyclic (g : Graph) (hacyclic : ¬ g.Cyclic) :
    (∃ n w, Worklist.Pops g n g.worklist w ∧ w.queue = [] ∧ g.order = w.outcome g ∧
      g.Emits w.emitted.count) ∧
    (∀ times, g.Emits times → ((∃ order, g.order = .sorted order) ↔
      g.ids.length ≤ ∑ id ∈ g.ids.toFinset, times id)) ∧
    ((∀ u id, g.Arc u id → g.ids.count id = 1) → ∃ order, g.order = .sorted order) ∧
    ∀ ordered blocked, g.order = .cyclic ordered blocked →
      blocked = [] ∧ ∀ id ∈ g.ids, id ∈ ordered := by
  obtain ⟨n, w, hpops, hqueue, hw, horder⟩ := exists_pops_of_acyclic hacyclic
  have hemits := hw.emits hqueue hacyclic
  have hlength : ∑ id ∈ g.ids.toFinset, w.emitted.count id = w.emitted.length := by
    have hmem : g.ids.toFinset = w.emitted.toFinset := by
      ext id
      rw [List.mem_toFinset, List.mem_toFinset]
      exact ⟨hw.mem_emitted hqueue hacyclic, hw.mem_ids⟩
    rw [hmem, List.sum_toFinset_count_eq_length]
  have hsorted : (∃ order, g.order = .sorted order) ↔ g.ids.length ≤ w.emitted.length := by
    rw [horder, Worklist.outcome]
    split
    · rename_i hless
      simpa using hless
    · rename_i hless
      simpa using hless
  refine ⟨⟨n, w, hpops, hqueue, horder, hemits⟩, fun times htimes => ?_, fun honce => ?_,
    fun ordered blocked hcyclic => ?_⟩
  · rw [hsorted, ← hlength]
    refine iff_of_eq (congrArg (g.ids.length ≤ ·) (Finset.sum_congr rfl fun id hid => ?_))
    exact hemits.unique hacyclic htimes (List.mem_toFinset.mp hid)
  · rw [hsorted, ← hlength, ← List.sum_toFinset_count_eq_length g.ids]
    refine Finset.sum_le_sum fun id hid => ?_
    have hmem := List.mem_toFinset.mp hid
    by_cases hroot : g.IsRoot id
    · exact (hemits.root id hmem hroot).ge
    · obtain ⟨u, harc⟩ := not_forall_not.mp hroot
      exact (honce u id harc).trans_le (hemits.pos hmem)
  · rw [horder, Worklist.outcome] at hcyclic
    split at hcyclic
    · obtain ⟨rfl, rfl⟩ := Order.cyclic.inj hcyclic
      refine ⟨List.filter_eq_nil_iff.mpr fun id hid => ?_, fun id hid => ?_⟩
      · rw [hw.lookup_eq_zero hqueue hacyclic hid]
        simp
      · exact hw.mem_emitted hqueue hacyclic hid
    · cases hcyclic

/-- A node declared twice with an edge to another one declared twice, which is emitted twice since
the first is. -/
theorem order_of_acyclic_both_twice :
    let g : Graph := ⟨["a", "b", "a", "b"], [.between "a" "b", .between "seed" "a"]⟩
    ¬ g.Cyclic ∧ g.Emits (fun _ => 2) ∧ g.order = .sorted ["a", "a", "b", "b"] ∧
      ∃ order, g.order = .sorted order := by
  intro g
  have hacyclic : ¬ g.Cyclic := (exists_sorted_once_iff g).mp ⟨["a", "b"], by decide⟩
  have hemits : g.Emits (fun _ => 2) := by
    constructor
    · simp only [isRoot_iff]
      decide
    · simp only [isRoot_iff]
      decide
  exact ⟨hacyclic, hemits, by decide,
    ((order_of_acyclic g hacyclic).2.1 _ hemits).mpr (by decide)⟩

/-- A node declared twice with an edge from one declared once: it is emitted once, and a cycle is
reported. -/
theorem order_cyclic_of_declared_twice :
    let g : Graph := ⟨["a", "b", "b"], [.between "a" "b"]⟩
    ¬ g.Cyclic ∧ g.order = .cyclic ["a", "b"] [] := by
  intro g
  exact ⟨(exists_sorted_once_iff g).mp ⟨["a", "b"], by decide⟩, by decide⟩

end Graph

end Dataflow
