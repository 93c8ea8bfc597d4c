import Dataflow.Proofs.Order.Queue

/-!
# The order is canonical

Nodes are emitted in the order in which they joined the queue. This order is told here without the
queue: by depth, that is, the length of the longest path of edges that ends in a node; at depth zero
by declaration; at any other depth by the last predecessor, and by the last edge from it
(`Graph.Precedes`). The emitted nodes are in this order (`Graph.pairwise_precedes`), and as the
predecessors of a node have smaller depths, no other list of them is (`Graph.eq_of_precedes`).
-/

namespace Dataflow

/-- The nodes that could be ordered. -/
def Order.emitted : Order → List String
  | .sorted order => order
  | .cyclic ordered _ => ordered

namespace Graph

variable {g : Graph} {l l' : List String} {a b u v p : String} {d m n : ℕ}

/-! ## Depth -/

/-- A path of `n` edges between nodes ends in the node. -/
inductive PathTo (g : Graph) : ℕ → String → Prop
  | start (v : String) : PathTo g 0 v
  | step {n : ℕ} {u v : String} (path : PathTo g n u) (harc : g.Arc u v) : PathTo g (n + 1) v

/-- The longest path that ends in the node has `d` edges. -/
def IsDepth (g : Graph) (v : String) (d : ℕ) : Prop := IsGreatest {n | g.PathTo n v} d

/-- A root has depth zero. -/
lemma IsRoot.isDepth (hv : g.IsRoot v) : g.IsDepth v 0 := by
  refine ⟨PathTo.start v, fun n hn => ?_⟩
  cases hn with
  | start => exact le_rfl
  | step path harc => exact absurd harc (hv _)

/-- A node is deeper than its predecessors. -/
lemma IsDepth.lt_of_arc (hu : g.IsDepth u m) (hv : g.IsDepth v n) (harc : g.Arc u v) : m < n :=
  hv.2 (PathTo.step hu.1 harc)

/-- A node that is no root does not have depth zero. -/
lemma IsDepth.exists_eq_succ (hv : g.IsDepth v n) (hroot : ¬ g.IsRoot v) : ∃ d, n = d + 1 := by
  obtain ⟨u, harc⟩ : ∃ u, g.Arc u v := by
    by_contra hnone
    exact hroot fun u harc => hnone ⟨u, harc⟩
  have hpos : 1 ≤ n := hv.2 (PathTo.step (.start u) harc)
  exact Nat.exists_eq_add_of_le' hpos

/-- A node is one deeper than its deepest predecessor. -/
lemma IsDepth.succ (hp : g.IsDepth p d) (harc : g.Arc p v)
    (hdeepest : ∀ u, g.Arc u v → ∃ n ≤ d, g.IsDepth u n) : g.IsDepth v (d + 1) := by
  refine ⟨PathTo.step hp.1 harc, fun n hn => ?_⟩
  cases hn with
  | start => exact Nat.zero_le _
  | step path harc' =>
    obtain ⟨k, hk, hu⟩ := hdeepest _ harc'
    exact Nat.succ_le_succ ((hu.2 path).trans hk)

/-! ## Nodes that join later are at least as deep -/

/-- Of two nodes of a list the relation holds between the one that stands first and the other. -/
lemma of_idxOf_lt {R : String → String → Prop} (hl : l.Pairwise R) (ha : a ∈ l) (hb : b ∈ l)
    (hlt : l.idxOf a < l.idxOf b) : R a b := by
  have h := List.pairwise_iff_getElem.mp hl _ _ (List.idxOf_lt_length_iff.mpr ha)
    (List.idxOf_lt_length_iff.mpr hb) hlt
  rwa [List.getElem_idxOf, List.getElem_idxOf] at h

/-- No node of the list up to the given one is deeper than that. -/
def Levelled (g : Graph) (l : List String) (v : String) (d : ℕ) : Prop :=
  g.IsDepth v d ∧ ∀ u ∈ l, l.idxOf u ≤ l.idxOf v → ∃ n ≤ d, g.IsDepth u n

/-- If no predecessor is deeper than the last one, a node is one deeper than that. -/
lemma LastPredecessor.isDepth (h : g.LastPredecessor l v p) (hp : g.Levelled l p d) :
    g.IsDepth v (d + 1) :=
  hp.1.succ h.arc fun u harc => hp.2 u (h.last u harc).1 (h.last u harc).2

/-- A node is at most one deeper than one up to which its last predecessor stands. -/
lemma LastPredecessor.exists_depth (h : g.LastPredecessor l v p) (hp : g.Levelled l p m)
    {q : String} (hq : g.Levelled l q d) (hle : l.idxOf p ≤ l.idxOf q) :
    ∃ n ≤ d + 1, g.IsDepth v n := by
  obtain ⟨m', hm, hdepth⟩ := hq.2 p h.mem hle
  obtain rfl := hp.1.unique hdepth
  exact ⟨m + 1, Nat.succ_le_succ hm, h.isDepth hp⟩

/-- A node that joined before a root is a root itself. -/
lemma Joins.isRoot (h : g.Joins l a b) (hb : g.IsRoot b) : g.IsRoot a := by
  cases h with
  | declared ha _ _ => exact ha
  | first _ hb' => exact absurd hb hb'
  | freed _ hb' _ _ _ => exact absurd hb'.arc (hb _)

/-- No node is less deep than one that joined before it. By induction along the list: of the last
predecessors of the two nodes, that of the first stands before that of the second, or is the
same. -/
lemma exists_levelled (hordered : g.Ordered l) (hjoins : l.Pairwise (g.Joins l)) :
    ∀ v ∈ l, ∃ d, g.Levelled l v d := by
  suffices hall : ∀ k, ∀ v ∈ l, l.idxOf v = k → ∃ d, g.Levelled l v d from
    fun v hv => hall _ v hv rfl
  intro k
  induction k using Nat.strong_induction_on with
  | _ k ih =>
    rintro v hv rfl
    by_cases hroot : g.IsRoot v
    · refine ⟨0, hroot.isDepth, fun u hu hle => ⟨0, le_rfl, ?_⟩⟩
      rcases hle.lt_or_eq with hlt | heq
      · exact ((of_idxOf_lt hjoins hu hv hlt).isRoot hroot).isDepth
      · obtain rfl := (List.idxOf_inj hu).mp heq
        exact hroot.isDepth
    · obtain ⟨q, hq⟩ :=
        exists_lastPredecessor hroot fun u harc => (hordered.idxOf_lt harc hv).1
      have hbefore : l.idxOf q < l.idxOf v := (hordered.idxOf_lt hq.arc hv).2
      obtain ⟨d, hd⟩ := ih _ hbefore q hq.mem rfl
      refine ⟨d + 1, hq.isDepth hd, fun u hu hle => ?_⟩
      rcases hle.lt_or_eq with hlt | heq
      · cases of_idxOf_lt hjoins hu hv hlt with
        | declared _ hroot' _ => exact absurd hroot' hroot
        | first hu _ => exact ⟨0, Nat.zero_le _, hu.isDepth⟩
        | freed hp hq' _ _ hkey =>
          have hpq := (Prod.Lex.monotone_fst _ _ hkey.le).trans (hq.last _ hq'.arc).2
          obtain ⟨m, hm⟩ := ih _ (hpq.trans_lt hbefore) _ hp.mem rfl
          exact hp.exists_depth hm hd hpq
      · obtain rfl := (List.idxOf_inj hu).mp heq
        exact ⟨d + 1, le_rfl, hq.isDepth hd⟩

/-! ## The canonical order -/

/-- The node `a` precedes `b` in the list `l`: it is less deep; or both have depth zero and `a` is
declared first; or both have the same depth other than zero, and the last predecessor of `a` stands
before that of `b`, or it is the same and the last edge from it to `a` is declared first. -/
inductive Precedes (g : Graph) (l : List String) (a b : String) : Prop
  | depth {m n : ℕ} (ha : g.IsDepth a m) (hb : g.IsDepth b n) (hlt : m < n)
  | declared (ha : g.IsDepth a 0) (hb : g.IsDepth b 0) (hlt : g.ids.idxOf a < g.ids.idxOf b)
  | freed {d : ℕ} {p q : String} {i j : ℕ} (hda : g.IsDepth a (d + 1)) (hdb : g.IsDepth b (d + 1))
      (ha : g.LastPredecessor l a p) (hb : g.LastPredecessor l b q) (hi : g.LastEdge p a i)
      (hj : g.LastEdge q b j) (hlt : toLex (l.idxOf p, i) < toLex (l.idxOf q, j))

/-- A list in the order in which its nodes joined is in the canonical order. -/
lemma pairwise_precedes (hl : l.Nodup) (hordered : g.Ordered l) (hjoins : l.Pairwise (g.Joins l)) :
    l.Pairwise (g.Precedes l) := by
  refine ((pairwise_idxOf hl).and hjoins).imp_of_mem ?_
  rintro a b ha hb ⟨hlt, hjoins'⟩
  obtain ⟨n, hbn, hlevel⟩ := exists_levelled hordered hjoins b hb
  obtain ⟨m, hle, ham⟩ := hlevel a ha hlt.le
  rcases hle.lt_or_eq with hless | rfl
  · exact .depth ham hbn hless
  · cases hjoins' with
    | declared hroot hroot' hdeclared => exact .declared hroot.isDepth hroot'.isDepth hdeclared
    | first hroot hroot' =>
      obtain ⟨d, rfl⟩ := hbn.exists_eq_succ hroot'
      cases ham.unique hroot.isDepth
    | freed hp hq hi hj hkey =>
      obtain ⟨d, rfl⟩ := ham.exists_eq_succ fun hroot => hroot _ hp.arc
      exact .freed ham hbn hp hq hi hj hkey

/-! ## No other list is in the canonical order -/

/-- A node is not deeper than one that it precedes. -/
lemma Precedes.exists_depths (h : g.Precedes l a b) :
    ∃ m n, g.IsDepth a m ∧ g.IsDepth b n ∧ m ≤ n := by
  cases h with
  | depth ha hb hlt => exact ⟨_, _, ha, hb, hlt.le⟩
  | declared ha hb _ => exact ⟨0, 0, ha, hb, le_rfl⟩
  | freed ha hb _ _ _ _ _ => exact ⟨_, _, ha, hb, le_rfl⟩

/-- A node does not precede one of its predecessors. -/
lemma Precedes.not_arc (h : g.Precedes l a u) : ¬ g.Arc u a := by
  intro harc
  obtain ⟨m, n, ha, hu, hle⟩ := h.exists_depths
  exact absurd (hu.lt_of_arc ha harc) (Nat.not_lt.mpr hle)

/-- In the canonical order the predecessors of a node stand before it. -/
lemma mem_front_of_arc {front back : List String} (ha : g.IsDepth a m)
    (hl : (front ++ a :: back).Pairwise (g.Precedes l)) (harc : g.Arc u a)
    (hu : u ∈ front ++ a :: back) : u ∈ front := by
  rcases List.mem_append.mp hu with hu | hu
  · exact hu
  rcases List.mem_cons.mp hu with rfl | hu
  · exact absurd (ha.lt_of_arc ha harc) (lt_irrefl _)
  · have hback := (List.pairwise_cons.mp (List.pairwise_append.mp hl).2.1).1 u hu
    exact absurd harc hback.not_arc

/-- In two lists in which the predecessors of a node have the same positions, the same one is the
last. -/
lemma LastPredecessor.unique {p' : String} (hp : g.LastPredecessor l v p)
    (hp' : g.LastPredecessor l' v p')
    (hsame : ∀ u ∈ l, g.Arc u v → l.idxOf u = l'.idxOf u) : p = p' := by
  obtain ⟨hmem, hle⟩ := hp.last p' hp'.arc
  have hle' := (hp'.last p hp.arc).2
  rw [← hsame p hp.mem hp.arc, ← hsame p' hmem hp'.arc] at hle'
  exact (List.idxOf_inj hp.mem).mp (le_antisymm hle' hle)

/-- Two nodes do not precede each other in two lists in which their predecessors have the same
positions. -/
lemma Precedes.not_precedes (h : g.Precedes l a b)
    (hsame : ∀ u ∈ l, g.Arc u a ∨ g.Arc u b → l.idxOf u = l'.idxOf u) : ¬ g.Precedes l' b a := by
  intro h'
  obtain ⟨m, n, ham, hbn, hle⟩ := h.exists_depths
  obtain ⟨n', m', hbn', ham', hle'⟩ := h'.exists_depths
  obtain rfl := ham.unique ham'
  obtain rfl := hbn.unique hbn'
  obtain rfl : m = n := le_antisymm hle hle'
  cases h with
  | depth ha hb hlt =>
    rw [ha.unique ham, hb.unique hbn] at hlt
    exact lt_irrefl _ hlt
  | declared ha hb hlt =>
    obtain rfl := ham.unique ha
    cases h' with
    | depth hb' ha' hlt' =>
      rw [ha'.unique ha, hb'.unique hb] at hlt'
      exact lt_irrefl _ hlt'
    | declared _ _ hlt' => exact lt_asymm hlt hlt'
    | freed hb' _ _ _ _ _ _ => cases hb'.unique hb
  | freed ha hb hp hq hi hj hlt =>
    obtain rfl := ham.unique ha
    cases h' with
    | depth hb' ha' hlt' =>
      rw [ha'.unique ha, hb'.unique hb] at hlt'
      exact lt_irrefl _ hlt'
    | declared hb' _ _ => cases hb'.unique hb
    | freed _ _ hq' hp' hj' hi' hlt' =>
      obtain rfl := hp.unique hp' fun u hu harc => hsame u hu (Or.inl harc)
      obtain rfl := hq.unique hq' fun u hu harc => hsame u hu (Or.inr harc)
      obtain rfl := hi.unique hi'
      obtain rfl := hj.unique hj'
      rw [hsame _ hp.mem (Or.inl hp.arc), hsame _ hq.mem (Or.inr hq.arc)] at hlt
      exact lt_asymm hlt hlt'

/-- Where two lists of the same items without repetitions differ first, the item that stands in the
one comes later in the other. -/
lemma mem_of_perm {front back back' : List String} (hl : (front ++ a :: back).Nodup)
    (hperm : (front ++ a :: back).Perm (front ++ b :: back')) (hne : a ≠ b) : a ∈ back' := by
  have hfront : a ∉ front := fun h => (List.nodup_append'.mp hl).2.2 h List.mem_cons_self
  have hmem := hperm.mem_iff.mp (List.mem_append_right front List.mem_cons_self)
  exact List.mem_of_ne_of_mem hne ((List.mem_append.mp hmem).resolve_left hfront)

/-- Two lists of the same nodes that are in the canonical order are equal. Where they differ first,
the predecessors of the two nodes that stand there stand before, and so at the same positions. -/
lemma eq_of_precedes (hdistinct : l.Nodup) (hdepth : ∀ v ∈ l, ∃ d, g.IsDepth v d)
    (hl : l.Pairwise (g.Precedes l)) (hl' : l'.Pairwise (g.Precedes l')) (hperm : l'.Perm l) :
    l' = l := by
  suffices hback : ∀ back back' front, l = front ++ back → l' = front ++ back' → back' = back from
    hback l l' [] rfl rfl
  intro back
  induction back with
  | nil =>
    rintro back' front rfl rfl
    have hlength := hperm.length_eq
    simp only [List.append_nil, List.length_append] at hlength
    exact List.length_eq_zero_iff.mp (by omega)
  | cons a back ih =>
    rintro (_ | ⟨b, back'⟩) front rfl rfl
    · have hlength := hperm.length_eq
      simp only [List.append_nil, List.length_append, List.length_cons] at hlength
      omega
    have hab : a = b := by
      by_contra hne
      have ha : a ∈ back' := mem_of_perm hdistinct hperm.symm hne
      have hb : b ∈ back := mem_of_perm (hperm.nodup_iff.mpr hdistinct) hperm (Ne.symm hne)
      have hprecedes := (List.pairwise_cons.mp (List.pairwise_append.mp hl).2.1).1 b hb
      have hprecedes' := (List.pairwise_cons.mp (List.pairwise_append.mp hl').2.1).1 a ha
      obtain ⟨m, hm⟩ := hdepth a (by simp)
      obtain ⟨n, hn⟩ := hdepth b (by simp [hb])
      refine hprecedes.not_precedes (fun u hu harc => ?_) hprecedes'
      have hfront : u ∈ front := by
        rcases harc with harc | harc
        · exact mem_front_of_arc hm hl harc hu
        · exact mem_front_of_arc hn hl' harc (hperm.mem_iff.mpr hu)
      rw [List.idxOf_append_of_mem hfront, List.idxOf_append_of_mem hfront]
    subst hab
    exact congrArg (a :: ·) (ih back' (front ++ [a]) (by simp) (by simp))

/-! ## The main result -/

/-- The order reports what the last worklist has emitted. -/
lemma emitted_outcome (g : Graph) (w : Worklist) : (w.outcome g).emitted = w.emitted := by
  unfold Worklist.outcome
  split <;> rfl

/-- The nodes that are emitted, be all nodes sorted or some blocked, have a depth; they are in the
canonical order, and they have no other one. -/
theorem emitted_canonical (g : Graph) (hids : g.ids.Nodup) :
    let emitted := g.order.emitted
    (∀ v ∈ emitted, ∃ d, g.IsDepth v d) ∧ emitted.Pairwise (g.Precedes emitted) ∧
      ∀ l : List String, l.Perm emitted → l.Pairwise (g.Precedes l) → l = emitted := by
  intro emitted
  obtain ⟨n, w, hpops, hqueue, horder⟩ := Worklist.exists_pops_worklist hids
  have hw := (Worklist.valid_worklist hids).pops hpops
  have hjoins := (Worklist.valid_worklist hids).joins_pops hpops (Worklist.joins_worklist hids)
  rw [hqueue, List.append_nil] at hjoins
  have hemitted : emitted = w.emitted := by
    rw [← emitted_outcome g w, ← horder]
  have hdistinct : w.emitted.Nodup := (List.nodup_append.mp hw.distinct).1
  have hdepth : ∀ v ∈ w.emitted, ∃ d, g.IsDepth v d := fun v hv => by
    obtain ⟨d, hd, -⟩ := exists_levelled hw.ordered hjoins v hv
    exact ⟨d, hd⟩
  have hprecedes := pairwise_precedes hdistinct hw.ordered hjoins
  rw [hemitted]
  exact ⟨hdepth, hprecedes, fun l hperm hl => eq_of_precedes hdistinct hdepth hprecedes hl hperm⟩

/-- Two edges lead from a root to the node that is declared first, one before and one after the edge
to the node that is declared second. So the second one is emitted first, and the node behind a
cycle is not emitted at all. -/
theorem emitted_canonical_last_edge :
    let g : Graph := ⟨["a", "x", "b", "root"],
      [.between "root" "a", .between "root" "b", ⟨"root", "a", "more", "more"⟩,
        .between "root" "x", .between "x" "x"]⟩
    g.ids.Nodup ∧ g.order.emitted = ["root", "b", "a"] ∧
      g.Precedes ["root", "b", "a"] "b" "a" ∧
      ¬ ["root", "a", "b"].Pairwise (g.Precedes ["root", "a", "b"]) := by
  intro g
  have hids : g.ids.Nodup := by decide
  have hemitted : g.order.emitted = ["root", "b", "a"] := by decide
  obtain ⟨-, hprecedes, hunique⟩ := emitted_canonical g hids
  rw [hemitted] at hprecedes hunique
  refine ⟨hids, hemitted, ?_, fun hother => ?_⟩
  · obtain ⟨-, hrest⟩ := List.pairwise_cons.mp hprecedes
    exact (List.pairwise_cons.mp hrest).1 "a" (by decide)
  · exact absurd (hunique _ (by decide) hother) (by decide)

end Graph

end Dataflow
