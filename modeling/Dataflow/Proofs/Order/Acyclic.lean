import Dataflow.Proofs.Order.Worklist
import Dataflow.Proofs.Workflow.Edges

/-!
# Orders and cycles

A graph whose identifiers are distinct can be ordered if and only if its edges between nodes form
no cycle. The invariant `Worklist.Valid` ties the parts of a worklist together: the number listed
for a node is that of its edges from nodes that have not been emitted (`Graph.pending`), and the
nodes for which this number is zero are those emitted or waiting. A run of pops keeps it, and so

* no node is emitted twice, which bounds the number of pops (`Worklist.Valid.length_le`);
* the emitted nodes are ordered, so that no cycle passes through them (`Ordered.lt_of_transGen`);
* what is left when no node waits has a predecessor that is left, too, which is a cycle in a
  finite graph (`Graph.cyclic_of_stuck`).
-/

namespace Dataflow

namespace Graph

variable {g : Graph} {u v id : String} {l done : List String}

/-- An edge between two nodes leads from the first to the second. -/
def Arc (g : Graph) (u v : String) : Prop :=
  u ∈ g.ids ∧ v ∈ g.ids ∧ ∃ e ∈ g.edges, e.source = u ∧ e.target = v

/-- The edges between nodes lead from some node back to it. -/
def Cyclic (g : Graph) : Prop := ∃ id, Relation.TransGen g.Arc id id

/-- Every node of the list stands after the nodes from which edges lead to it. -/
def Ordered (g : Graph) (l : List String) : Prop :=
  ∀ before id after, l = before ++ id :: after → ∀ u, g.Arc u id → u ∈ before

/-- The number of edges into a node from nodes that are not done. -/
def pending (g : Graph) (done : List String) (id : String) : ℕ :=
  g.edges.countP fun e => e.target == id && (g.contains e.source && !done.contains e.source)

/-! ### The edges that are left -/

/-- Before any node is done, all edges from nodes are left. -/
lemma pending_nil (hid : id ∈ g.ids) : g.pending [] id = g.degree id := by
  rw [degree, incoming_of_mem hid, List.filter_filter,
    ← List.countP_eq_length_filter, pending]
  refine List.countP_congr fun e _ => ?_
  simp [and_comm]

/-- A node that gets done takes its edges away. -/
lemma pending_eq_add (hu : u ∈ g.ids) (hnot : u ∉ done) (id : String) :
    g.pending done id =
      g.pending (done ++ [u]) id + (g.outgoing u).countP fun e => e.target == id := by
  have hcontains : g.contains u = true := contains_iff_mem.mpr hu
  rw [pending, List.countP_eq_countP_filter_add _ _ fun e => e.source == u, add_comm]
  congr 1
  · rw [pending, List.countP_filter]
    refine List.countP_congr fun e _ => ?_
    simp only [Bool.and_eq_true, beq_iff_eq, Bool.not_eq_true', List.contains_eq_mem,
      decide_eq_false_iff_not, List.mem_append, List.mem_singleton, beq_eq_false_iff_ne]
    tauto
  · rw [outgoing_of_mem hu]
    refine List.countP_congr fun e he => ?_
    have hsource : e.source = u := by simpa using (List.mem_filter.mp he).2
    simp [hsource, hcontains, hnot]

/-- No edge is left if and only if all predecessors are done. -/
lemma pending_eq_zero_iff (hid : id ∈ g.ids) :
    g.pending done id = 0 ↔ ∀ u, g.Arc u id → u ∈ done := by
  rw [pending, List.countP_eq_zero]
  constructor
  · rintro h u ⟨hu, -, e, he, rfl, rfl⟩
    simpa [contains, hu] using h e he
  · intro h e he htrue
    simp only [Bool.and_eq_true, beq_iff_eq, contains, List.contains_eq_mem, decide_eq_true_eq,
      Bool.not_eq_true', decide_eq_false_iff_not] at htrue
    obtain ⟨htarget, hsource, hdone⟩ := htrue
    exact hdone (h e.source ⟨hsource, hid, e, he, rfl, htarget⟩)

/-! ### Ordered lists have no cycles, stuck sets have one -/

/-- A node whose predecessors stand in an ordered list may be put at its end. -/
lemma Ordered.snoc (hl : g.Ordered l) (hv : ∀ u, g.Arc u v → u ∈ l) : g.Ordered (l ++ [v]) := by
  intro before id after heq u hu
  rcases List.eq_nil_or_concat after with rfl | ⟨after', last, rfl⟩
  · obtain ⟨rfl, hid⟩ := List.append_inj' heq rfl
    obtain rfl : v = id := by simpa using hid
    exact hv u hu
  · rw [List.concat_eq_append, ← List.cons_append, ← List.append_assoc] at heq
    exact hl before id after' (List.append_inj' heq rfl).1 u hu

/-- In an ordered list a predecessor of a node stands before it. -/
lemma Ordered.idxOf_lt (hl : g.Ordered l) (huv : g.Arc u v) (hv : v ∈ l) :
    u ∈ l ∧ l.idxOf u < l.idxOf v := by
  obtain ⟨before, after, rfl, hnot⟩ := List.eq_append_cons_of_mem hv
  have hu : u ∈ before := hl before v after rfl u huv
  refine ⟨List.mem_append_left _ hu, ?_⟩
  rw [List.idxOf_append_of_mem hu, List.idxOf_append_of_notMem hnot]
  have := List.idxOf_lt_length_iff.mpr hu
  omega

/-- In an ordered list whatever leads to a node stands before it. -/
lemma Ordered.lt_of_transGen (hl : g.Ordered l) (h : Relation.TransGen g.Arc u v) (hv : v ∈ l) :
    u ∈ l ∧ l.idxOf u < l.idxOf v := by
  induction h with
  | single huv => exact hl.idxOf_lt huv hv
  | tail _ hbc ih =>
    obtain ⟨hb, hlt⟩ := hl.idxOf_lt hbc hv
    obtain ⟨hu, hlt'⟩ := ih hb
    exact ⟨hu, hlt'.trans hlt⟩

/-- What holds of a node as soon as it holds of its predecessors holds along an ordered list. -/
lemma Ordered.induction {P : String → Prop} (hl : g.Ordered l)
    (step : ∀ id ∈ l, (∀ u, g.Arc u id → P u) → P id) : ∀ id ∈ l, P id := by
  induction l using List.reverseRecOn with
  | nil => simp
  | append_singleton l v ih =>
    have hprefix : ∀ id ∈ l, P id := by
      refine ih (fun before id after heq => ?_) fun id hid => step id (by simp [hid])
      exact hl before id (after ++ [v]) (by simp [heq])
    intro id hid
    rcases List.mem_append.mp hid with h | h
    · exact hprefix id h
    · obtain rfl : id = v := by simpa using h
      exact step id hid fun u hu => hprefix u (hl l id [] rfl u hu)

/-- Among nodes of which each has a predecessor among them, one lies on a cycle. -/
lemma exists_cycle_of_stuck {left : Set String} (hleft : left.Nonempty)
    (hpred : ∀ v ∈ left, ∃ u ∈ left, g.Arc u v) : ∃ id ∈ left, Relation.TransGen g.Arc id id := by
  by_contra hacyclic
  let leads (a b : {id // id ∈ g.ids}) : Prop := a.1 ∈ left ∧ Relation.TransGen g.Arc a b
  have htrans : IsTrans _ leads := ⟨fun _ _ _ h h' => ⟨h.1, Relation.TransGen.trans h.2 h'.2⟩⟩
  have hirrefl : Std.Irrefl leads := ⟨fun a h => hacyclic ⟨a, h⟩⟩
  have hwf : WellFounded leads := Finite.wellFounded_of_trans_of_irrefl leads
  have hnonempty : {a : {id // id ∈ g.ids} | a.1 ∈ left}.Nonempty := by
    obtain ⟨v, hv⟩ := hleft
    obtain ⟨u, hu, harc⟩ := hpred v hv
    exact ⟨⟨u, harc.1⟩, hu⟩
  obtain ⟨⟨v, hvids⟩, hv, hmin⟩ := hwf.has_min _ hnonempty
  obtain ⟨u, hu, harc⟩ := hpred v hv
  exact hmin ⟨u, harc.1⟩ hu ⟨hu, .single harc⟩

/-- A graph with nodes of which each has a predecessor among them has a cycle. -/
lemma cyclic_of_stuck {left : Set String} (hleft : left.Nonempty)
    (hpred : ∀ v ∈ left, ∃ u ∈ left, g.Arc u v) : g.Cyclic := by
  obtain ⟨id, -, hcycle⟩ := exists_cycle_of_stuck hleft hpred
  exact ⟨id, hcycle⟩

end Graph

namespace Worklist

variable {g : Graph} {w w' : Worklist} {id u : String} {ds : Degrees} {rest emitted : List String}

/-- The invariant of a run of pops. -/
structure Valid (g : Graph) (w : Worklist) : Prop where
  listed : w.degrees.map Prod.fst = g.ids
  degree : ∀ id ∈ g.ids, w.degrees.lookup id = some (g.pending w.emitted id)
  distinct : (w.emitted ++ w.queue).Nodup
  free : ∀ id, id ∈ w.emitted ++ w.queue ↔ id ∈ g.ids ∧ g.pending w.emitted id = 0
  ordered : g.Ordered w.emitted

/-! ### A run of pops keeps the invariant -/

/-- The degree of a node is listed under its identifier. -/
lemma lookup_degrees (hid : id ∈ g.ids) : g.degrees.lookup id = some (g.degree id) := by
  rw [Graph.degrees]
  generalize g.ids = ids at hid
  induction ids with
  | nil => simp at hid
  | cons first ids ih =>
    rw [List.map_cons, List.lookup_cons]
    by_cases h : id = first
    · simp [h]
    · rw [beq_false_of_ne h]
      exact ih ((List.mem_cons.mp hid).resolve_left h)

/-- The invariant holds before the first pop. -/
lemma valid_worklist (hids : g.ids.Nodup) : g.worklist.Valid g where
  listed := by
    rw [Graph.worklist, Graph.degrees, List.map_map]
    exact List.map_id g.ids
  degree := fun id hid => by
    simp only [Graph.worklist]
    rw [lookup_degrees hid, Graph.pending_nil hid]
  distinct := hids.filter _
  free := fun id => by
    simp only [Graph.worklist, Graph.firstLayer, List.nil_append, List.mem_filter, beq_iff_eq]
    exact and_congr_right fun hid => by rw [Graph.pending_nil hid]
  ordered := fun before id after h => by simp [Graph.worklist] at h

/-- What a pop does. -/
lemma eq_of_pop (hpop : w.pop g = some w') : ∃ u rest, w.queue = u :: rest ∧
    w' = ⟨(w.degrees.release (g.outgoing u)).1, rest ++ (w.degrees.release (g.outgoing u)).2,
      w.emitted ++ [u]⟩ := by
  obtain ⟨ds, queue, emitted⟩ := w
  cases queue with
  | nil => simp [Worklist.pop] at hpop
  | cons u rest => exact ⟨u, rest, rfl, by simpa [Worklist.pop] using hpop.symm⟩

/-- The node that is popped has lost all its edges and has not been emitted. -/
lemma Valid.of_head (hw : Valid g ⟨ds, u :: rest, emitted⟩) :
    u ∈ g.ids ∧ g.pending emitted u = 0 ∧ u ∉ emitted := by
  obtain ⟨huids, huzero⟩ := (hw.free u).mp (by simp)
  refine ⟨huids, huzero, fun hu => ?_⟩
  exact (List.nodup_append.mp hw.distinct).2.2 u hu u List.mem_cons_self rfl

/-- A pop sets the nodes free that lose the last of their edges, and each of them once. -/
lemma Valid.count_freed (hw : Valid g ⟨ds, u :: rest, emitted⟩) (hid : id ∈ g.ids) :
    (ds.release (g.outgoing u)).2.count id =
      if g.pending (emitted ++ [u]) id = 0 ∧ g.pending emitted id ≠ 0 then 1 else 0 := by
  obtain ⟨huids, -, hnot⟩ := hw.of_head
  have hadd := Graph.pending_eq_add huids hnot id
  have hdegree : ds.lookup id = some (g.pending emitted id) := hw.degree id hid
  rw [Degrees.count_release hdegree]
  split <;> omega

/-- The nodes that a pop sets free. -/
lemma Valid.mem_freed_iff (hw : Valid g ⟨ds, u :: rest, emitted⟩) (id : String) :
    id ∈ (ds.release (g.outgoing u)).2 ↔
      id ∈ g.ids ∧ g.pending (emitted ++ [u]) id = 0 ∧ g.pending emitted id ≠ 0 := by
  by_cases hid : id ∈ g.ids
  · rw [← List.count_pos_iff, hw.count_freed hid]
    split <;> simp_all
  · have hnone : ds.lookup id = none := by
      rw [List.lookup_eq_none_iff]
      intro entry hentry
      have hlisted : entry.1 ∈ g.ids := hw.listed ▸ List.mem_map_of_mem hentry
      simpa using fun heq : id = entry.1 => hid (heq ▸ hlisted)
    simp [hid, Degrees.not_mem_release hnone]

/-- A pop keeps the nodes distinct: those that it sets free had edges left. -/
lemma Valid.nodup_pop (hw : Valid g ⟨ds, u :: rest, emitted⟩) :
    (emitted ++ [u] ++ (rest ++ (ds.release (g.outgoing u)).2)).Nodup := by
  have hdistinct : (emitted ++ [u] ++ rest).Nodup := by simpa using hw.distinct
  rw [← List.append_assoc, List.nodup_append']
  refine ⟨hdistinct, ?_, ?_⟩
  · rw [List.nodup_iff_count_le_one]
    intro id
    by_cases hid : id ∈ g.ids
    · rw [hw.count_freed hid]
      split <;> omega
    · rw [List.count_eq_zero_of_not_mem fun h => hid ((hw.mem_freed_iff id).mp h).1]
      omega
  · intro id hid hfreed
    have hold : id ∈ emitted ++ u :: rest := by simpa using hid
    exact ((hw.mem_freed_iff id).mp hfreed).2.2 ((hw.free id).mp hold).2

/-- A pop keeps the invariant. -/
lemma Valid.pop (hw : w.Valid g) (hpop : w.pop g = some w') : w'.Valid g := by
  obtain ⟨u, rest, hqueue, rfl⟩ := eq_of_pop hpop
  obtain ⟨ds, queue, emitted⟩ := w
  subst hqueue
  obtain ⟨huids, huzero, hnot⟩ := hw.of_head
  have hadd := Graph.pending_eq_add huids hnot
  refine ⟨(Degrees.map_fst_release _ _).trans hw.listed, ?_, hw.nodup_pop, ?_, ?_⟩
  · intro id hid
    rw [Degrees.lookup_release, hw.degree id hid, Option.map_some, hadd id, Nat.add_sub_cancel]
  · intro id
    have hold : id ∈ emitted ++ [u] ++ rest ↔ id ∈ g.ids ∧ g.pending emitted id = 0 := by
      simpa using hw.free id
    have hpending := hadd id
    simp only
    rw [← List.append_assoc, List.mem_append, hold, hw.mem_freed_iff id]
    constructor
    · rintro (⟨hid, hzero⟩ | ⟨hid, hzero, -⟩)
      · exact ⟨hid, by omega⟩
      · exact ⟨hid, hzero⟩
    · rintro ⟨hid, hzero⟩
      by_cases h : g.pending emitted id = 0
      · exact Or.inl ⟨hid, h⟩
      · exact Or.inr ⟨hid, hzero, h⟩
  · exact hw.ordered.snoc ((Graph.pending_eq_zero_iff huids).mp huzero)

/-- A run of pops keeps the invariant. -/
lemma Valid.pops {n : ℕ} (hw : w.Valid g) (h : Pops g n w w') : w'.Valid g := by
  induction h with
  | refl w => exact hw
  | step hpop _ ih => exact ih (hw.pop hpop)

/-- Every pop emits one node. -/
lemma length_emitted_of_pops {n : ℕ} (h : Pops g n w w') :
    w'.emitted.length = w.emitted.length + n := by
  induction h with
  | refl w => rfl
  | step hpop _ ih =>
    obtain ⟨u, rest, -, rfl⟩ := eq_of_pop hpop
    rw [ih, List.length_append, List.length_singleton]
    omega

/-- No more nodes have been emitted or wait than there are. -/
lemma Valid.length_le (hw : w.Valid g) : w.emitted.length + w.queue.length ≤ g.ids.length := by
  rw [← List.length_append]
  exact (hw.distinct.subperm fun id hid => ((hw.free id).mp hid).1).length_le

end Worklist

end Dataflow
