import Dataflow.Workflow.Graph
import Mathlib

/-!
# Ordering node by node

`Graph.order` takes whole layers at a time. Here the nodes wait in a queue and are popped one by
one: a popped node is emitted, its outgoing edges are taken away, and the nodes that are left
without an edge join the queue. A round of `Graph.layers` pops what the queue holds when the round
begins, so `Graph.order` is read off a run of pops (`pops_layers`).

The first part says what taking edges away does to the degrees: `lookup_release` for the numbers
that remain, `count_release` for the nodes that are set free.
-/

namespace Dataflow

namespace Degrees

variable {ds : Degrees} {es : List Edge} {id : String}

/-- Taking an edge away changes the number of its target only. -/
lemma lookup_lower (ds : Degrees) (target id : String) :
    (lower ds target).lookup id = (ds.lookup id).map fun d => if id = target then d - 1 else d := by
  induction ds with
  | nil => rfl
  | cons entry ds ih =>
    obtain ⟨key, d⟩ := entry
    have hhead : lower ((key, d) :: ds) target =
        (key, if key = target then d - 1 else d) :: lower ds target := by
      by_cases h : key = target <;> simp [lower, h]
    rw [hhead, List.lookup_cons, List.lookup_cons, ih]
    by_cases hid : id = key
    · simp [hid]
    · simp [beq_false_of_ne hid]

/-- Taking an edge away keeps the nodes that are listed. -/
lemma map_fst_lower (ds : Degrees) (target : String) :
    (lower ds target).map Prod.fst = ds.map Prod.fst := by
  unfold lower
  rw [List.map_map]
  refine List.map_congr_left fun entry _ => ?_
  by_cases h : entry.1 = target <;> simp [h]

/-- The numbers that remain: each falls by the number of edges into its node. -/
lemma lookup_release (ds : Degrees) (es : List Edge) (id : String) :
    (release ds es).1.lookup id =
      (ds.lookup id).map fun d => d - es.countP fun e => e.target == id := by
  induction es generalizing ds with
  | nil => simp [release]
  | cons e es ih =>
    have hstep : (release ds (e :: es)).1 = (release (lower ds e.target) es).1 := rfl
    rw [hstep, ih, lookup_lower, Option.map_map]
    refine congrArg (fun f => (ds.lookup id).map f) (funext fun d => ?_)
    by_cases h : id = e.target
    · simp only [Function.comp_apply, h, if_true, List.countP_cons, beq_self_eq_true]
      omega
    · have hne : (e.target == id) = false := beq_false_of_ne (Ne.symm h)
      simp [h, hne]

/-- Taking edges away keeps the nodes that are listed. -/
lemma map_fst_release (ds : Degrees) (es : List Edge) :
    (release ds es).1.map Prod.fst = ds.map Prod.fst := by
  induction es generalizing ds with
  | nil => rfl
  | cons e es ih => exact (ih (lower ds e.target)).trans (map_fst_lower ds e.target)

/-- How often a node is set free: once for the edge that takes its number to zero, and once for
every edge after that one. -/
lemma count_release {d : Nat} (hd : ds.lookup id = some d) :
    (release ds es).2.count id = (es.countP fun e => e.target == id) - (d - 1) := by
  induction es generalizing ds d with
  | nil => simp [release]
  | cons e es ih =>
    have hstep : (release ds (e :: es)).2 =
        if (lower ds e.target).lookup e.target == some 0
          then e.target :: (release (lower ds e.target) es).2
          else (release (lower ds e.target) es).2 := rfl
    by_cases h : e.target = id
    · subst h
      have hlow : (lower ds e.target).lookup e.target = some (d - 1) := by
        simp [lookup_lower, hd]
      rw [hstep, hlow, List.countP_cons_of_pos (by simp)]
      by_cases hzero : d - 1 = 0
      · rw [if_pos (by simp [hzero]), List.count_cons_self, ih hlow]
        omega
      · rw [if_neg (by simp [hzero]), ih hlow]
        omega
    · have hlow : (lower ds e.target).lookup id = some d := by
        simp [lookup_lower, hd, Ne.symm h]
      rw [hstep, List.countP_cons_of_neg (by simpa using h), ← ih hlow]
      split
      · exact List.count_cons_of_ne h
      · rfl

/-- Only nodes that are listed are set free. -/
lemma not_mem_release (hd : ds.lookup id = none) : id ∉ (release ds es).2 := by
  induction es generalizing ds with
  | nil => simp [release]
  | cons e es ih =>
    have hlow : (lower ds e.target).lookup id = none := by simp [lookup_lower, hd]
    simp only [release]
    split
    · rename_i hzero
      rw [List.mem_cons, not_or]
      refine ⟨?_, ih hlow⟩
      rintro rfl
      simp [hlow] at hzero
    · exact ih hlow

/-- A node that is set free is listed, and one of the edges leads to it. -/
lemma exists_of_mem_release (h : id ∈ (release ds es).2) :
    (∃ d, ds.lookup id = some d) ∧ ∃ e ∈ es, e.target = id := by
  cases hd : ds.lookup id with
  | none => exact absurd h (not_mem_release hd)
  | some d =>
    have hcount := List.count_pos_iff.mpr h
    rw [count_release hd] at hcount
    have hpos : 0 < es.countP fun e => e.target == id := by omega
    obtain ⟨e, he, htarget⟩ := List.countP_pos_iff.mp hpos
    exact ⟨⟨d, rfl⟩, e, he, by simpa using htarget⟩

/-- Edges can be taken away in two goes. -/
lemma release_append (ds : Degrees) (es fs : List Edge) :
    release ds (es ++ fs) =
      ((release (release ds es).1 fs).1,
        (release ds es).2 ++ (release (release ds es).1 fs).2) := by
  induction es generalizing ds with
  | nil => rfl
  | cons e es ih =>
    simp only [List.cons_append, release, ih]
    split <;> rfl

/-- An edge into a node that is not listed changes nothing. -/
lemma lower_of_not_mem (h : id ∉ ds.map Prod.fst) : lower ds id = ds := by
  unfold lower
  conv_rhs => rw [← List.map_id ds]
  refine List.map_congr_left fun entry hentry => ?_
  have hne : entry.1 ≠ id := fun heq => h (heq ▸ List.mem_map_of_mem hentry)
  simp [hne]

/-- Edges into nodes that are not listed may be left out. -/
lemma release_filter {p : Edge → Bool}
    (hp : ∀ e ∈ es, p e = false → e.target ∉ ds.map Prod.fst) :
    release ds (es.filter p) = release ds es := by
  induction es generalizing ds with
  | nil => rfl
  | cons e es ih =>
    have hrest : ∀ e' ∈ es, p e' = false → e'.target ∉ (lower ds e.target).map Prod.fst := by
      rw [map_fst_lower]
      exact fun e' he' => hp e' (List.mem_cons_of_mem e he')
    cases hpe : p e with
    | true =>
      rw [List.filter_cons_of_pos hpe]
      simp only [release, ih hrest]
    | false =>
      have htarget := hp e List.mem_cons_self hpe
      have hlow : lower ds e.target = ds := lower_of_not_mem htarget
      have hnone : ds.lookup e.target = none := by
        rw [List.lookup_eq_none_iff]
        exact fun entry hentry => by
          simpa using fun heq : e.target = entry.1 => htarget (heq ▸ List.mem_map_of_mem hentry)
      rw [hlow] at hrest
      rw [List.filter_cons_of_neg (by simp [hpe]), ih hrest]
      simp [release, hlow, hnone]

end Degrees

/-! ## Popping nodes off a queue -/

/-- What an ordering knows between two pops: how many edges still enter each node, the nodes that
wait, and the nodes that have been emitted. -/
structure Worklist where
  degrees : Degrees
  queue : List String
  emitted : List String

namespace Graph

/-- The worklist before the first pop. -/
def worklist (g : Graph) : Worklist := ⟨g.degrees, g.firstLayer, []⟩

end Graph

namespace Worklist

/-- Pops the first node that waits: it is emitted, its outgoing edges are taken away, and the nodes
that are set free by this join the queue. -/
def pop (g : Graph) (w : Worklist) : Option Worklist :=
  match w.queue with
  | [] => none
  | id :: rest =>
    let (lowered, freed) := w.degrees.release (g.outgoing id)
    some ⟨lowered, rest ++ freed, w.emitted ++ [id]⟩

/-- `w.Pops g n w'` says that `n` pops lead from `w` to `w'`. -/
inductive Pops (g : Graph) : ℕ → Worklist → Worklist → Prop
  | refl (w : Worklist) : Pops g 0 w w
  | step {n : ℕ} {w w' w'' : Worklist} :
      w.pop g = some w' → Pops g n w' w'' → Pops g (n + 1) w w''

/-- The outcome that is read off when no node waits any more. -/
def outcome (g : Graph) (w : Worklist) : Order :=
  if w.emitted.length < g.ids.length then
    .cyclic w.emitted (g.ids.filter fun id => (w.degrees.lookup id).any (0 < ·))
  else .sorted w.emitted

variable {g : Graph} {ds : Degrees} {emitted : List String}

/-- Pops can be counted in two goes. -/
lemma Pops.trans {m n : ℕ} {w w' w'' : Worklist} (h : Pops g m w w') (h' : Pops g n w' w'') :
    Pops g (m + n) w w'' := by
  induction h with
  | refl w => simpa using h'
  | step hpop _ ih =>
    rw [Nat.add_right_comm]
    exact .step hpop (ih h')

/-- As many pops as there are nodes in a first part of the queue take away the edges out of that
part. -/
lemma pops_append (layer rest : List String) :
    Pops g layer.length ⟨ds, layer ++ rest, emitted⟩
      ⟨(ds.release (layer.flatMap g.outgoing)).1,
        rest ++ (ds.release (layer.flatMap g.outgoing)).2, emitted ++ layer⟩ := by
  induction layer generalizing ds rest emitted with
  | nil =>
    simp only [List.length_nil, List.nil_append, List.flatMap_nil, Degrees.release,
      List.append_nil]
    exact .refl _
  | cons id layer ih =>
    refine .step rfl ?_
    have htail := @ih (ds.release (g.outgoing id)).1 (emitted ++ [id])
      (rest ++ (ds.release (g.outgoing id)).2)
    simpa [Degrees.release_append] using htail

end Worklist

namespace Graph

variable {g : Graph} {rounds : ℕ} {ds : Degrees} {layer : List String}

/-- The layer that is next after a number of rounds. -/
def nextLayer (g : Graph) : ℕ → Degrees → List String → List String
  | 0, _, layer => layer
  | rounds + 1, ds, layer =>
    let (lowered, next) := ds.release (layer.flatMap g.outgoing)
    g.nextLayer rounds lowered next

/-- No layer comes behind an empty one. -/
lemma nextLayer_nil (g : Graph) (rounds : ℕ) (ds : Degrees) : g.nextLayer rounds ds [] = [] := by
  induction rounds generalizing ds with
  | zero => rfl
  | succ rounds ih => exact ih _

/-- The first of the layers, and those behind it. -/
lemma layers_succ (hlayer : layer ≠ []) : g.layers (rounds + 1) ds layer =
    (layer :: (g.layers rounds (ds.release (layer.flatMap g.outgoing)).1
        (ds.release (layer.flatMap g.outgoing)).2).1,
      (g.layers rounds (ds.release (layer.flatMap g.outgoing)).1
        (ds.release (layer.flatMap g.outgoing)).2).2) := by
  rw [layers, if_neg (by simpa using hlayer)]

/-- As long as a layer is next, a node has been found in every round. -/
lemma le_length_layers (hnext : g.nextLayer rounds ds layer ≠ []) :
    rounds ≤ (g.layers rounds ds layer).1.flatten.length := by
  induction rounds generalizing ds layer with
  | zero => exact Nat.zero_le _
  | succ rounds ih =>
    have hlayer : layer ≠ [] := by
      rintro rfl
      exact hnext (g.nextLayer_nil _ _)
    have hrest := ih hnext
    have hpos := List.length_pos_iff.mpr hlayer
    rw [layers_succ hlayer, List.flatten_cons, List.length_append]
    omega

end Graph

namespace Worklist

variable {g : Graph}

/-- The layers are what a run of pops emits; the nodes that wait behind it are the next layer. -/
lemma pops_layers (g : Graph) (rounds : ℕ) (ds : Degrees) (layer emitted : List String) :
    Pops g (g.layers rounds ds layer).1.flatten.length ⟨ds, layer, emitted⟩
      ⟨(g.layers rounds ds layer).2, g.nextLayer rounds ds layer,
        emitted ++ (g.layers rounds ds layer).1.flatten⟩ := by
  induction rounds generalizing ds layer emitted with
  | zero => simpa [Graph.layers, Graph.nextLayer] using Pops.refl _
  | succ rounds ih =>
    by_cases hempty : layer = []
    · subst hempty
      rw [Graph.nextLayer_nil]
      simpa [Graph.layers] using Pops.refl _
    · have hlayer : Pops g layer.length ⟨ds, layer, emitted⟩
          ⟨(ds.release (layer.flatMap g.outgoing)).1, (ds.release (layer.flatMap g.outgoing)).2,
            emitted ++ layer⟩ := by
        simpa using pops_append layer []
      have hrest := ih (ds.release (layer.flatMap g.outgoing)).1
        (ds.release (layer.flatMap g.outgoing)).2 (emitted ++ layer)
      rw [Graph.layers_succ hempty]
      simpa [Graph.nextLayer] using hlayer.trans hrest

end Worklist

end Dataflow
