import Dataflow.Proofs.Order.Sorted

/-!
# The order in which nodes join the queue

At first the nodes wait that no edge enters, in declaration order. A node that is popped sets free
the nodes that lose their last edge to it, each at the last of its edges from the popped node
(`Degrees.Covers.freed_eq_filter`). So a node joins the queue when its last predecessor is popped,
and the nodes that join at one pop are in the order of their last edges from the popped node
(`Graph.Joins`). A run of pops keeps this order, from the emitted nodes on to those that wait
(`Worklist.Valid.joins_pops`).
-/

namespace Dataflow

/-! ## The last occurrences in a list -/

/-- If an item stands before another one when only the last occurrences are kept, then the list can
be cut between their last occurrences. -/
lemma pairwise_dedup {α : Type} [DecidableEq α] (l : List α) :
    l.dedup.Pairwise fun a b => ∃ front back, l = front ++ back ∧ a ∉ back ∧ b ∈ back := by
  induction l with
  | nil => exact .nil
  | cons x l ih =>
    have hlater : l.dedup.Pairwise
        fun a b => ∃ front back, x :: l = front ++ back ∧ a ∉ back ∧ b ∈ back := by
      refine ih.imp ?_
      rintro a b ⟨front, back, rfl, hcut⟩
      exact ⟨x :: front, back, rfl, hcut⟩
    by_cases hx : x ∈ l
    · rwa [List.dedup_cons_of_mem hx]
    · rw [List.dedup_cons_of_notMem hx, List.pairwise_cons]
      exact ⟨fun b hb => ⟨[x], l, rfl, hx, List.mem_dedup.mp hb⟩, hlater⟩

/-- The items of a list without repetitions stand in the order of their positions. -/
lemma pairwise_idxOf {α : Type} [DecidableEq α] {l : List α} (hl : l.Nodup) :
    l.Pairwise fun a b => l.idxOf a < l.idxOf b := by
  rw [List.pairwise_iff_getElem]
  intro i j hi hj hij
  rwa [hl.idxOf_getElem i hi, hl.idxOf_getElem j hj]

namespace Degrees

/-- No node is listed with a smaller number than it has edges in the list. -/
def Covers (ds : Degrees) (es : List Edge) : Prop :=
  ∀ id d, ds.lookup id = some d → es.countP (fun e => e.target == id) ≤ d

variable {ds : Degrees} {e : Edge} {es : List Edge}

/-- A node is listed with the number of its edges before one of them is taken away if and only if
it is so afterwards. -/
lemma Covers.lookup_lower_eq_iff (h : ds.Covers (e :: es)) (id : String) :
    (lower ds e.target).lookup id = some (es.countP fun e' => e'.target == id) ↔
      ds.lookup id = some ((e :: es).countP fun e' => e'.target == id) := by
  rw [lookup_lower]
  cases hd : ds.lookup id with
  | none => simp
  | some d =>
    have hle := h id d hd
    rw [Option.map_some, Option.some_inj, Option.some_inj]
    by_cases hid : id = e.target
    · subst hid
      rw [List.countP_cons_of_pos (by simp)] at hle ⊢
      rw [if_pos rfl]
      omega
    · rw [if_neg hid, List.countP_cons_of_neg (by simpa using Ne.symm hid)]

/-- The numbers that remain cover the edges that remain. -/
lemma Covers.tail (h : ds.Covers (e :: es)) : (lower ds e.target).Covers es := by
  intro id d' hd'
  rw [lookup_lower, Option.map_eq_some_iff] at hd'
  obtain ⟨d, hd, rfl⟩ := hd'
  have hle := h id d hd
  by_cases hid : id = e.target
  · subst hid
    rw [List.countP_cons_of_pos (by simp)] at hle
    rw [if_pos rfl]
    omega
  · rw [List.countP_cons_of_neg (by simpa using Ne.symm hid)] at hle
    rwa [if_neg hid]

/-- Edges that are covered set those of their targets free that have no other edges, in the order of
the last edges to them. -/
lemma Covers.freed_eq_filter (h : ds.Covers es) :
    (release ds es).2 = (es.map Edge.target).dedup.filter fun id =>
      ds.lookup id == some (es.countP fun e => e.target == id) := by
  induction es generalizing ds with
  | nil => rfl
  | cons e es ih =>
    have hstep : (release ds (e :: es)).2 =
        if (lower ds e.target).lookup e.target == some 0
          then e.target :: (release (lower ds e.target) es).2
          else (release (lower ds e.target) es).2 := rfl
    have hsame : ∀ id,
        ((lower ds e.target).lookup id == some (es.countP fun e' => e'.target == id)) =
          (ds.lookup id == some ((e :: es).countP fun e' => e'.target == id)) := fun id => by
      rw [Bool.eq_iff_iff, beq_iff_eq, beq_iff_eq, h.lookup_lower_eq_iff]
    simp only [hstep, ih h.tail, hsame, List.map_cons]
    by_cases hmem : e.target ∈ es.map Edge.target
    · -- there is a later edge to this target, which is not free before that one
      have hlater : (lower ds e.target).lookup e.target ≠ some 0 := by
        obtain ⟨e', he', htarget⟩ := List.mem_map.mp hmem
        have hpos : 0 < es.countP fun e' => e'.target == e.target :=
          List.countP_pos_iff.mpr ⟨e', he', by simpa using htarget⟩
        intro hzero
        have := h.tail e.target 0 hzero
        omega
      rw [if_neg (by simpa using hlater), List.dedup_cons_of_mem hmem]
    · have hlast : es.countP (fun e' => e'.target == e.target) = 0 := by
        rw [List.countP_eq_zero]
        exact fun e' he' h => hmem (List.mem_map.mpr ⟨e', he', by simpa using h⟩)
      have hhead := hsame e.target
      rw [hlast] at hhead
      rw [hhead, List.dedup_cons_of_notMem hmem, List.filter_cons]

end Degrees

/-! ## What decides who joins first -/

namespace Graph

variable {g : Graph} {done : List String} {a b u v p : String}

/-- No edge from a node enters the node. -/
def IsRoot (g : Graph) (v : String) : Prop := ∀ u, ¬ g.Arc u v

/-- All predecessors of `v` are in the list, and `p` is the one that stands last. -/
structure LastPredecessor (g : Graph) (done : List String) (v p : String) : Prop where
  arc : g.Arc p v
  last : ∀ u, g.Arc u v → u ∈ done ∧ done.idxOf u ≤ done.idxOf p

/-- The positions at which edges from `u` to `v` are declared. -/
def positions (g : Graph) (u v : String) : Set ℕ :=
  {i | ∃ e, g.edges[i]? = some e ∧ e.source = u ∧ e.target = v}

/-- The last edge from `u` to `v` is declared at the given position. -/
def LastEdge (g : Graph) (u v : String) (position : ℕ) : Prop :=
  IsGreatest (g.positions u v) position

/-- The node `a` joins the queue before `b`, where `done` are the nodes that were popped: of the
nodes that wait at first the one that is declared first, these before all others, and of the others
the one whose last predecessor was popped first, or whose last edge from it is declared first. -/
inductive Joins (g : Graph) (done : List String) (a b : String) : Prop
  | declared (ha : g.IsRoot a) (hb : g.IsRoot b) (hlt : g.ids.idxOf a < g.ids.idxOf b)
  | first (ha : g.IsRoot a) (hb : ¬ g.IsRoot b)
  | freed {p q : String} {i j : ℕ} (ha : g.LastPredecessor done a p)
      (hb : g.LastPredecessor done b q) (hi : g.LastEdge p a i) (hj : g.LastEdge q b j)
      (hlt : toLex (done.idxOf p, i) < toLex (done.idxOf q, j))

/-- Between two nodes that an edge joins there is a last one. -/
lemma exists_lastEdge (harc : g.Arc u v) : ∃ i, g.LastEdge u v i := by
  obtain ⟨-, -, e, he, hsource, htarget⟩ := harc
  obtain ⟨i, hi⟩ := List.getElem?_of_mem he
  have hne : (g.positions u v).Nonempty := ⟨i, e, hi, hsource, htarget⟩
  have hbound : BddAbove (g.positions u v) := by
    refine ⟨g.edges.length, ?_⟩
    rintro j ⟨e', hj, -⟩
    exact (List.getElem?_eq_some_iff.mp hj).1.le
  exact ⟨_, Nat.sSup_mem hne hbound, fun _ hj => le_csSup hbound hj⟩

/-- If the edges can be cut so that one from `u` to `b` is behind the cut, but none to `a`, then the
last edge to `a` is declared before the last one to `b`. -/
lemma LastEdge.lt_of_cut {i j : ℕ} {front back : List Edge} (hi : g.LastEdge u a i)
    (hj : g.LastEdge u b j) (hedges : g.edges = front ++ back)
    (ha : ∀ e ∈ back, e.source = u → e.target ≠ a)
    (hb : ∃ e ∈ back, e.source = u ∧ e.target = b) : i < j := by
  obtain ⟨e, hei, hsource, htarget⟩ := hi.1
  obtain ⟨e', he', hsource', htarget'⟩ := hb
  obtain ⟨k, hk⟩ := List.getElem?_of_mem he'
  have hfront : i < front.length := by
    by_contra hback
    rw [hedges, List.getElem?_append_right (Nat.not_lt.mp hback)] at hei
    exact ha e (List.mem_of_getElem? hei) hsource htarget
  have hle : front.length + k ≤ j := by
    refine hj.2 ⟨e', ?_, hsource', htarget'⟩
    rw [hedges, List.getElem?_append_right (Nat.le_add_right _ _), Nat.add_sub_cancel_left]
    exact hk
  omega

namespace LastPredecessor

/-- The last predecessor is itself in the list. -/
lemma mem (h : g.LastPredecessor done v p) : p ∈ done := (h.last p h.arc).1

/-- It stays the last one when nodes are appended. -/
lemma append (h : g.LastPredecessor done v p) (more : List String) :
    g.LastPredecessor (done ++ more) v p where
  arc := h.arc
  last := fun u harc => by
    obtain ⟨hu, hle⟩ := h.last u harc
    rw [List.idxOf_append_of_mem hu, List.idxOf_append_of_mem h.mem]
    exact ⟨List.mem_append_left _ hu, hle⟩

end LastPredecessor

/-- A node with predecessors, all of which are in a list, has a last one. -/
lemma exists_lastPredecessor (hv : ¬ g.IsRoot v) (hdone : ∀ u, g.Arc u v → u ∈ done) :
    ∃ p, g.LastPredecessor done v p := by
  classical
  obtain ⟨u, hu⟩ : ∃ u, g.Arc u v := by
    by_contra hnone
    exact hv fun u hu => hnone ⟨u, hu⟩
  let predecessors := done.toFinset.filter fun u => g.Arc u v
  have hmem : ∀ u, g.Arc u v → u ∈ predecessors := fun u hu => by
    simp [predecessors, hu, hdone u hu]
  obtain ⟨p, hp, hlast⟩ := predecessors.exists_max_image done.idxOf ⟨u, hmem u hu⟩
  exact ⟨p, (Finset.mem_filter.mp hp).2, fun u hu => ⟨hdone u hu, hlast u (hmem u hu)⟩⟩

/-- Who joined first stays so when nodes are popped. -/
lemma Joins.append (h : g.Joins done a b) (more : List String) : g.Joins (done ++ more) a b := by
  cases h with
  | declared ha hb hlt => exact .declared ha hb hlt
  | first ha hb => exact .first ha hb
  | freed ha hb hi hj hlt =>
    refine .freed (ha.append more) (hb.append more) hi hj ?_
    rwa [List.idxOf_append_of_mem ha.mem, List.idxOf_append_of_mem hb.mem]

end Graph

/-! ## A run of pops keeps the order -/

namespace Worklist

variable {g : Graph} {w w' : Worklist} {a b u : String} {ds : Degrees} {rest emitted : List String}

/-- The nodes that a pop sets free are targets of the edges of the popped node, in the order of the
last edges to them. -/
lemma Valid.freed_sublist (hw : Valid g ⟨ds, u :: rest, emitted⟩) :
    (ds.release (g.outgoing u)).2.Sublist ((g.outgoing u).map Edge.target).dedup := by
  have hcovers : ds.Covers (g.outgoing u) := by
    intro id d hd
    have hid : id ∈ g.ids := hw.listed ▸ by
      obtain ⟨before, after, rfl, -⟩ := List.lookup_eq_some_iff.mp hd
      simp
    obtain ⟨huids, -, hnot⟩ := hw.of_head
    have hadd := Graph.pending_eq_add huids hnot id
    rw [hw.degree id hid, Option.some_inj] at hd
    simp only at hd
    omega
  rw [hcovers.freed_eq_filter]
  exact List.filter_sublist

/-- A node that a pop sets free has the popped node as its last predecessor. -/
lemma Valid.lastPredecessor_of_freed (hw : Valid g ⟨ds, u :: rest, emitted⟩)
    (hb : b ∈ (ds.release (g.outgoing u)).2) : g.LastPredecessor (emitted ++ [u]) b u := by
  obtain ⟨hid, hzero, hpending⟩ := (hw.mem_freed_iff b).mp hb
  rw [Graph.pending_eq_zero_iff hid] at hzero
  rw [ne_eq, Graph.pending_eq_zero_iff hid, not_forall] at hpending
  obtain ⟨p, hp⟩ := hpending
  obtain ⟨harc, hnot⟩ := Classical.not_imp.mp hp
  obtain rfl : p = u := by simpa [hnot] using hzero p harc
  refine ⟨harc, fun u' harc' => ⟨hzero u' harc', ?_⟩⟩
  have hlt := List.idxOf_lt_length_iff.mpr (hzero u' harc')
  rw [List.length_append, List.length_singleton] at hlt
  rw [List.idxOf_append_of_notMem hnot]
  omega

/-- The nodes that a pop sets free join in the order of the last edges to them. -/
lemma Valid.joins_freed (hw : Valid g ⟨ds, u :: rest, emitted⟩) :
    (ds.release (g.outgoing u)).2.Pairwise (g.Joins (emitted ++ [u])) := by
  refine List.Pairwise.imp_of_mem ?_ ((pairwise_dedup _).sublist hw.freed_sublist)
  rintro a b ha hb ⟨front, back, hcut, hbefore, hbehind⟩
  have hlast := hw.lastPredecessor_of_freed ha
  have hlast' := hw.lastPredecessor_of_freed hb
  obtain ⟨i, hi⟩ := Graph.exists_lastEdge hlast.arc
  obtain ⟨j, hj⟩ := Graph.exists_lastEdge hlast'.arc
  obtain ⟨es, es', hout, rfl, rfl⟩ := List.map_eq_append_iff.mp hcut
  rw [Graph.outgoing_of_mem hw.of_head.1] at hout
  obtain ⟨front, back, hedges, -, rfl⟩ := List.filter_eq_append_iff.mp hout
  have hlt : i < j := by
    refine hi.lt_of_cut hj hedges (fun e he hsource htarget => hbefore ?_) ?_
    · exact List.mem_map.mpr ⟨e, List.mem_filter.mpr ⟨he, by simpa using hsource⟩, htarget⟩
    · obtain ⟨e, he, htarget⟩ := List.mem_map.mp hbehind
      obtain ⟨hmem, hsource⟩ := List.mem_filter.mp he
      exact ⟨e, hmem, by simpa using hsource, htarget⟩
  exact .freed hlast hlast' hi hj (Prod.Lex.toLex_lt_toLex.mpr (Or.inr ⟨rfl, hlt⟩))

/-- A node that has been emitted or waits joined before those that a pop sets free. -/
lemma Valid.joins_of_freed (hw : Valid g ⟨ds, u :: rest, emitted⟩) (ha : a ∈ emitted ++ u :: rest)
    (hb : b ∈ (ds.release (g.outgoing u)).2) : g.Joins (emitted ++ [u]) a b := by
  have hlast' := hw.lastPredecessor_of_freed hb
  by_cases hroot : g.IsRoot a
  · exact .first hroot fun hroot' => hroot' u hlast'.arc
  · obtain ⟨hid, hzero⟩ := (hw.free a).mp ha
    obtain ⟨p, hlast⟩ :=
      Graph.exists_lastPredecessor hroot ((Graph.pending_eq_zero_iff hid).mp hzero)
    obtain ⟨i, hi⟩ := Graph.exists_lastEdge hlast.arc
    obtain ⟨j, hj⟩ := Graph.exists_lastEdge hlast'.arc
    refine .freed (hlast.append [u]) hlast' hi hj (Prod.Lex.toLex_lt_toLex.mpr (Or.inl ?_))
    have hlt := List.idxOf_lt_length_iff.mpr hlast.mem
    rw [List.idxOf_append_of_mem hlast.mem, List.idxOf_append_of_notMem hw.of_head.2.2]
    exact hlt.trans_le (Nat.le_add_right _ _)

/-- The nodes that wait at first are roots, in declaration order. -/
lemma joins_worklist (hids : g.ids.Nodup) :
    (g.worklist.emitted ++ g.worklist.queue).Pairwise (g.Joins g.worklist.emitted) := by
  have hroot : ∀ id ∈ g.firstLayer, g.IsRoot id := by
    intro id hid u harc
    obtain ⟨hmem, hzero⟩ := List.mem_filter.mp hid
    rw [beq_iff_eq, ← Graph.pending_nil hmem, Graph.pending_eq_zero_iff hmem] at hzero
    exact List.not_mem_nil (hzero u harc)
  have hsorted : g.firstLayer.Pairwise fun a b => g.ids.idxOf a < g.ids.idxOf b :=
    (pairwise_idxOf hids).sublist List.filter_sublist
  exact hsorted.imp_of_mem fun ha hb hlt => .declared (hroot _ ha) (hroot _ hb) hlt

/-- A pop keeps the order in which nodes joined. -/
lemma Valid.joins_pop (hw : w.Valid g) (hpop : w.pop g = some w')
    (hjoins : (w.emitted ++ w.queue).Pairwise (g.Joins w.emitted)) :
    (w'.emitted ++ w'.queue).Pairwise (g.Joins w'.emitted) := by
  obtain ⟨u, rest, hqueue, rfl⟩ := eq_of_pop hpop
  obtain ⟨ds, queue, emitted⟩ := w
  subst hqueue
  have hsplit : emitted ++ [u] ++ (rest ++ (ds.release (g.outgoing u)).2) =
      (emitted ++ u :: rest) ++ (ds.release (g.outgoing u)).2 := by simp
  simp only [hsplit]
  exact List.pairwise_append.mpr ⟨hjoins.imp fun h => h.append [u], hw.joins_freed,
    fun a ha b hb => hw.joins_of_freed ha hb⟩

/-- A run of pops keeps the order in which nodes joined. -/
lemma Valid.joins_pops {n : ℕ} (hw : w.Valid g) (h : Pops g n w w')
    (hjoins : (w.emitted ++ w.queue).Pairwise (g.Joins w.emitted)) :
    (w'.emitted ++ w'.queue).Pairwise (g.Joins w'.emitted) := by
  induction h with
  | refl w => exact hjoins
  | step hpop _ ih => exact ih (hw.pop hpop) (hw.joins_pop hpop hjoins)

end Worklist

end Dataflow
