import Dataflow.Proofs.Run.Limit
import Dataflow.Proofs.Run.Routing

/-!
# A split behind a merge

A merge node yields the object of its inputs at the handle `output`. A split node that reads it by
one edge between the default handles gets this object at the handle `input`, and yields its entries
again (`Engine.data_of_split`). Neither step can take a value for something else: the edge finds
the handle `output`, so it does not look into the merged object, and an object is not `null`, so the
split node does not miss it. So each edge from the split node carries what the merge node was given
at the handle that the edge names (`Engine.split_undoes_merge`).
-/

namespace Dataflow

variable {σ : Type}

/-! ## One edge in between -/

/-- The only edge into the target leads there from the source, between the default handles. -/
def Workflow.ReadsOnly (w : Workflow) (target source : String) : Prop :=
  (w.edges.filter fun edge => edge.target == target) = [.between source target]

/-- A node that reads from one node only gathers what the edge takes from the value of that node. -/
lemma Graph.gather_of_readsOnly {w : Workflow} {target source : String} {outputs : Fields} {v : Json}
    (hreads : w.ReadsOnly target source) (htarget : target ∈ w.ids)
    (hvalue : Keyed.value? outputs source = some v) (seeds : Fields) :
    (Graph.ofWorkflow w).gather target outputs seeds =
      [("input", (Edge.between source target).pick v)] := by
  have hentry : Edge.entry? outputs seeds (.between source target) =
      some ("input", (Edge.between source target).pick v) := by
    have hsource : (Edge.between source target).source? outputs seeds = some v := by
      rw [Edge.source?, Edge.between, hvalue, Option.some_or]
    rw [Edge.entry?, hsource]
    rfl
  have hincoming : (Graph.ofWorkflow w).incoming target = [.between source target] :=
    (incoming_of_mem htarget).trans hreads
  rw [gather_eq_ofEntries, hincoming, List.filterMap_cons_some hentry]
  rfl

namespace Engine

variable {e : Engine σ} {w : Workflow} {g : Graph} {seeds outputs : Fields} {nodes : List Node}
  {now : ℕ} {state : σ} {order : List String} {h : History σ} {m s : Visit}

/-! ## Nodes run by functions -/

/-- A node is started before the limit has passed. -/
lemma Walked.start_le_limit (hw : e.Walked g seeds nodes outputs now state h) {v : Visit}
    (hv : v ∈ h.visits) : v.start ≤ e.limit := by
  induction hw with
  | completed => simp at hv
  | stopped => simp at hv
  | failed htime hvisit _ =>
    obtain rfl := List.mem_singleton.mp hv
    exact (of_visit hvisit).2.2.trans_le htime
  | next htime hvisit _ _ ih =>
    rcases List.mem_cons.mp hv with rfl | hv
    · exact (of_visit hvisit).2.2.trans_le htime
    · exact ih hv

/-- A node that is run by a function has its outcome: as no time passes, it is not cut off. -/
lemma outcome_of_function (hrun : e.run w seeds state = .started order h) {v : Visit}
    (hv : v ∈ h.visits) {f : Json → Fields → Outcome}
    (hhandler : e.handler? v.node = some (.ofFunction f)) :
    v.outcome = f v.node.config v.inputs := by
  obtain ⟨-, hwalked⟩ := walked_of_run hrun
  obtain ⟨state, state', hvisit⟩ := hwalked.visit_eq hv
  cases hcooperative : e.cooperative.visit v.node v.inputs v.start state with
  | mk u state'' =>
    have hstart : v.start ≤ e.limit := hwalked.start_le_limit hv
    obtain ⟨houtcome, hfinish⟩ := of_visit_cooperative hcooperative hhandler
    obtain ⟨-, -, hustart⟩ := of_visit hcooperative
    have hintime : ¬ e.limit < u.finish := by
      rw [hfinish, hustart]
      exact Nat.not_lt.mpr hstart
    rw [visit_eq hstart hcooperative, if_neg fun hcut => hintime hcut.2] at hvisit
    obtain ⟨rfl, -⟩ := Prod.mk.inj hvisit
    exact houtcome

/-! ## Merge nodes and split nodes -/

/-- The node is run as a merge node. -/
def RunsMerge (e : Engine σ) (n : Node) : Prop :=
  e.handler? n = some (.ofFunction fun _ inputs => .ok (Kinds.runMerge inputs))

/-- The node is run as a split node. -/
def RunsSplit (e : Engine σ) (n : Node) : Prop :=
  e.handler? n = some (.ofFunction fun _ inputs => .ok (Kinds.runSplit inputs))

/-- A split node that reads a merge node only yields the inputs of the merge node. -/
lemma data_of_split (hrun : e.run w seeds state = .started order h) (hm : m ∈ h.visits)
    (hs : s ∈ h.visits) (hmerge : e.RunsMerge m.node) (hsplit : e.RunsSplit s.node)
    (hreads : w.ReadsOnly s.node.id m.node.id) :
    s.outcome = .ok (.ofData (.object m.inputs)) := by
  have hmerged : m.outcome = .ok (Kinds.runMerge m.inputs) := outcome_of_function hrun hm hmerge
  have hvalue : Keyed.value? h.outputs m.node.id = some (.object [("output", .object m.inputs)]) :=
    History.value?_outputs (nodup_of_run hrun) hm hmerged
  have hinputs : s.inputs = [("input", .object m.inputs)] := by
    rw [inputs_eq_gather_outputs hrun hs,
      Graph.gather_of_readsOnly hreads (mem_ids_of_visit hrun hs) hvalue seeds]
    rfl
  rw [outcome_of_function hrun hs hsplit, hinputs]
  rfl

/-! ## The main result -/

/-- A split node that reads nothing but a merge node, by an edge between the default handles, has as
its data exactly what the merge node has gathered, whatever the handles are called and whether the
values at them are `null`. Each edge from the split node whose source handle is one of these handles
carries the value at it, and delivers it unless a later edge enters the same handle. -/
theorem split_undoes_merge (hrun : e.run w seeds state = .started order h) (hm : m ∈ h.visits)
    (hs : s ∈ h.visits) (hmerge : e.RunsMerge m.node) (hsplit : e.RunsSplit s.node)
    (hreads : w.ReadsOnly s.node.id m.node.id) :
    (∃ output, s.outcome = .ok output ∧ output.data = .object m.inputs) ∧
      Keyed.value? h.outputs s.node.id = some (.object m.inputs) ∧
      ∀ handle x, Keyed.value? m.inputs handle = some x →
        ∀ edge ∈ w.edges, edge.source = s.node.id → edge.sourceHandle = handle →
          edge.entry? h.outputs seeds = some (edge.targetHandle, x) ∧
            ∀ v ∈ h.visits, v.node.id = edge.target → w.LastInto edge →
              Keyed.value? v.inputs edge.targetHandle = some x := by
  have hdata := data_of_split hrun hm hs hmerge hsplit hreads
  have hvalue : Keyed.value? h.outputs s.node.id = some (.object m.inputs) :=
    History.value?_outputs (nodup_of_run hrun) hs hdata
  refine ⟨⟨_, hdata, rfl⟩, hvalue, ?_⟩
  rintro handle x hx edge hedge hsource rfl
  have hentry : edge.entry? h.outputs seeds = some (edge.targetHandle, x) := by
    rw [Edge.entry?, Edge.source?, hsource, hvalue, Option.some_or, Option.map_some, Edge.pick, hx]
    rfl
  refine ⟨hentry, fun v hv htarget hlast => ?_⟩
  rw [inputs_eq_gather_outputs hrun hv, htarget]
  exact Graph.value?_gather_of_last hlast (htarget ▸ mem_ids_of_visit hrun hv) hentry

/-- The merge node has handles that are called as those of nodes are, one of them with `null`, and a
seed is called as the merge node is. -/
theorem split_undoes_merge_with_handles :
    let e : Engine Unit := ⟨.builtin fun _ _ state => .pure (.error (.unsupported "")) state, [],
      fun call state => .pure (.error (.capabilityUnavailable call.capability)) state, 0, true⟩
    let w : Workflow := ⟨none, none,
      [⟨"s", "split", .null⟩, ⟨"m", "merge", .null⟩, ⟨"out", "output", .null⟩],
      [⟨"x", "m", "output", "output"⟩, ⟨"y", "m", "output", "input"⟩, .between "m" "s",
        ⟨"s", "out", "output", "left"⟩, ⟨"s", "out", "input", "right"⟩]⟩
    let seeds : Fields := [("m", .string "seed"), ("x", .null), ("y", .array [])]
    ∃ order h m s v, e.run w seeds () = .started order h ∧ h.visits = [m, s, v] ∧
      e.RunsMerge m.node ∧ e.RunsSplit s.node ∧ w.ReadsOnly s.node.id m.node.id ∧
      Keyed.value? h.outputs "s" = some (.object [("input", .array []), ("output", .null)]) ∧
      Keyed.value? v.inputs "left" = some .null ∧
      Keyed.value? v.inputs "right" = some (.array []) := by
  intro e w seeds
  obtain ⟨order, h, m, s, v, hrun, hvisits, hm, hs, hv, hinputs⟩ : ∃ order h m s v,
      e.run w seeds () = .started order h ∧ h.visits = [m, s, v] ∧
        m.node = ⟨"m", "merge", .null⟩ ∧ s.node = ⟨"s", "split", .null⟩ ∧
        v.node = ⟨"out", "output", .null⟩ ∧
        m.inputs = [("input", .array []), ("output", .null)] :=
    ⟨_, _, _, _, _, rfl, rfl, rfl, rfl, rfl, rfl⟩
  have hregistry : e.registry = .builtin fun _ _ state => .pure (.error (.unsupported "")) state :=
    rfl
  have hmerge : e.RunsMerge m.node := handler?_of_builtin hregistry (by simp [hm])
  have hsplit : e.RunsSplit s.node := handler?_of_builtin hregistry (by simp [hs])
  have hreads : w.ReadsOnly s.node.id m.node.id := by rw [hm, hs]; rfl
  obtain ⟨-, hvalue, hdelivers⟩ := split_undoes_merge hrun (m := m) (s := s) (by simp [hvisits])
    (by simp [hvisits]) hmerge hsplit hreads
  rw [hs, hinputs] at hvalue
  rw [hs, hinputs] at hdelivers
  obtain ⟨-, hleft⟩ := hdelivers "output" .null rfl ⟨"s", "out", "output", "left"⟩ (by simp [w])
    rfl rfl
  obtain ⟨-, hright⟩ := hdelivers "input" (.array []) rfl ⟨"s", "out", "input", "right"⟩
    (by simp [w]) rfl rfl
  exact ⟨order, h, m, s, v, hrun, hvisits, hmerge, hsplit, hreads, hvalue,
    hleft v (by simp [hvisits]) (congrArg Node.id hv) ⟨[_, _, _], [_], rfl, by simp⟩,
    hright v (by simp [hvisits]) (congrArg Node.id hv) ⟨[_, _, _, _], [], rfl, by simp⟩⟩

end Engine

end Dataflow
