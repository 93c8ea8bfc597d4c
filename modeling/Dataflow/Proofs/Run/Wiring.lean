import Dataflow.Proofs.Run.Outputs

/-!
# Wiring that carries nothing

An edge carries nothing if its target is no node, or if its source is neither a node nor a seed. A
seed is not read if it has the name of a node, or if no edge leads from it into a node. Such edges
can be deleted and such seeds be put in, taken out or changed without any effect on a run
(`Engine.run_keeping`); the report tells them in the first entry of the log only, which counts the
edges and lists the seeds (`Engine.report_idle_wiring`).

The order stays, as an edge between two nodes carries something. What a node gathers stays, as the
values of the nodes from which edges lead to it are there when it is started: a seed with the name
of a node is never asked for.
-/

namespace Dataflow

variable {σ : Type}

namespace Workflow

variable {w : Workflow} {seeds seeds' values : Fields} {keep : Edge → Bool} {id : String}

/-- Whether an edge may carry a value: its target is a node, and its source a node or a seed. -/
def carries (w : Workflow) (seeds : Fields) (edge : Edge) : Bool :=
  w.ids.contains edge.target && (w.ids.contains edge.source || Keyed.hasKey seeds edge.source)

/-- A name under which a seed is read: it is not that of a node, and an edge leads from it into a
node. -/
def Reads (w : Workflow) (key : String) : Prop :=
  key ∉ w.ids ∧ ∃ edge ∈ w.edges, edge.source = key ∧ edge.target ∈ w.ids

/-- The workflow with some of its edges. -/
def keeping (w : Workflow) (keep : Edge → Bool) : Workflow :=
  { w with edges := w.edges.filter keep }

/-- Edges that carry nothing do not count for the plan. -/
lemma plan_keeping (hkeep : ∀ edge ∈ w.edges, w.carries seeds edge → keep edge) :
    (w.keeping keep).plan = w.plan := by
  have hjoins : (w.edges.filter keep).filter (Graph.ofWorkflow w).joins =
      w.edges.filter (Graph.ofWorkflow w).joins := by
    rw [List.filter_filter]
    refine List.filter_congr fun edge hedge => ?_
    cases hjoin : (Graph.ofWorkflow w).joins edge with
    | false => rfl
    | true =>
      have hends : w.ids.contains edge.source = true ∧ w.ids.contains edge.target = true :=
        Bool.and_eq_true_iff.mp hjoin
      rw [hkeep edge hedge (by rw [carries, hends.1, hends.2]; rfl)]
      rfl
  have horder : (w.keeping keep).order = w.order := Graph.order_eq_of_filter_eq hjoins
  have hfault : (w.keeping keep).nodesFault = w.nodesFault := rfl
  rw [plan, plan, horder, hfault]

/-- A node gathers the same as before, once the nodes from which edges lead to it have values. -/
lemma gather_keeping (hkeep : ∀ edge ∈ w.edges, w.carries seeds edge → keep edge)
    (hseeds : ∀ key, w.Reads key → Keyed.value? seeds' key = Keyed.value? seeds key)
    (hid : id ∈ w.ids) (hbefore : ∀ u, (Graph.ofWorkflow w).Arc u id → Keyed.hasKey values u)
    (hnodes : ∀ key, Keyed.hasKey values key → key ∈ w.ids) :
    (Graph.ofWorkflow (w.keeping keep)).gather id values seeds' =
      (Graph.ofWorkflow w).gather id values seeds := by
  have hincoming : (Graph.ofWorkflow (w.keeping keep)).incoming id =
      ((Graph.ofWorkflow w).incoming id).filter keep := by
    have hmem : id ∈ (Graph.ofWorkflow w).ids := hid
    have hmem' : id ∈ (Graph.ofWorkflow (w.keeping keep)).ids := hid
    rw [Graph.incoming_of_mem hmem, Graph.incoming_of_mem hmem', List.filter_filter]
    exact (List.filter_filter ..).trans (List.filter_congr fun edge _ => Bool.and_comm _ _)
  rw [Graph.gather, Graph.gather, hincoming, List.foldl_filter]
  refine List.foldl_ext _ _ _ fun gathered edge hedge => ?_
  obtain ⟨-, hmem, htarget⟩ := Graph.mem_incoming.mp hedge
  have hcarries : w.carries seeds edge =
      (w.ids.contains edge.source || Keyed.hasKey seeds edge.source) := by
    rw [carries, htarget, List.contains_iff_mem.mpr hid, Bool.true_and]
  by_cases hsource : edge.source ∈ w.ids
  · have hkept : keep edge = true :=
      hkeep edge hmem (by rw [hcarries, List.contains_iff_mem.mpr hsource, Bool.true_or])
    obtain ⟨x, hx⟩ := Option.isSome_iff_exists.mp
      (hbefore edge.source ⟨hsource, hid, edge, hmem, rfl, htarget⟩)
    rw [if_pos hkept, Edge.deliver, Edge.deliver, Edge.source?, Edge.source?, hx, Option.some_or,
      Option.some_or]
  · have hvalue : Keyed.value? values edge.source = none := by
      rw [← Option.not_isSome_iff_eq_none]
      exact fun hkey => hsource (hnodes _ hkey)
    have hsame : edge.source? values seeds' = edge.source? values seeds := by
      rw [Edge.source?, Edge.source?, hseeds edge.source ⟨hsource, edge, hmem, rfl, htarget ▸ hid⟩]
    rw [Edge.deliver, Edge.deliver, hsame]
    cases hkept : keep edge with
    | true => rfl
    | false =>
      -- the edge is deleted, so its source is no seed either
      have hseed : Keyed.hasKey seeds edge.source = false := by
        rw [← Bool.not_eq_true]
        intro hkey
        rw [hkeep edge hmem (by rw [hcarries, hkey, Bool.or_true])] at hkept
        cases hkept
      have hnone : edge.source? values seeds = none := by
        rw [Edge.source?, hvalue, Option.none_or]
        simpa [Keyed.hasKey] using hseed
      rw [hnone]
      rfl

/-- The report of a run that was started tells the wiring in the first entry of its log. -/
lemma report_keeping (w : Workflow) (keep : Edge → Bool) (seeds seeds' : Fields)
    (order : List String) (h : History σ) :
    ∃ first rest data, ((Run.started order h).report w seeds).log = first :: rest ∧
      (Run.started order h).report (w.keeping keep) seeds' =
        { (Run.started order h).report w seeds with
          log := { first with data := data } :: rest } := by
  have hopening : Run.openingEntry (w.keeping keep) seeds' =
      { Run.openingEntry w seeds with data := (Run.openingEntry (w.keeping keep) seeds').data } :=
    rfl
  have hcollect : (w.keeping keep).collect order h.outputs = w.collect order h.outputs := rfl
  refine ⟨Run.openingEntry w seeds,
    h.visits.flatMap Visit.log ++ Run.closingEntries (w.collect order h.outputs) h,
    (Run.openingEntry (w.keeping keep) seeds').data, ?_⟩
  rw [← hopening]
  unfold Run.report
  cases hending : h.ending with
  | completed => simp only [hending, hcollect, and_self]
  | failed error => simp only [hending, hcollect, and_self]
  | stopped before error => simp only [hending, hcollect, and_self]

end Workflow

namespace Engine

variable {w : Workflow} {seeds seeds' : Fields} {keep : Edge → Bool}

/-- A run does not depend on edges that carry nothing, nor on seeds that are not read. -/
lemma run_keeping (e : Engine σ) (hkeep : ∀ edge ∈ w.edges, w.carries seeds edge → keep edge)
    (hseeds : ∀ key, w.Reads key → Keyed.value? seeds' key = Keyed.value? seeds key) (state : σ) :
    e.run (w.keeping keep) seeds' state = e.run w seeds state := by
  rw [run, run, Workflow.plan_keeping hkeep]
  cases hplan : w.plan with
  | error fault => rfl
  | ok order =>
    obtain ⟨hperm, hordered⟩ := Workflow.perm_and_ordered_of_plan hplan
    refine congrArg (Run.started order) (e.walk_congr ?_ 0 state)
    intro before n after hnodes values hvalues
    have hids : order = before.map Node.id ++ n.id :: after.map Node.id := by
      rw [← Workflow.map_id_planned hplan, Workflow.planned]
      exact (congrArg (List.map Node.id) hnodes).trans (by rw [List.map_append, List.map_cons])
    have hmem : ∀ id, Keyed.hasKey values id ↔ id ∈ before.map Node.id := by
      intro id
      rw [hvalues id]
      simp [Keyed.hasKey]
    refine Workflow.gather_keeping hkeep hseeds ?_ (fun u harc => ?_) fun key hkey => ?_
    · exact hperm.mem_iff.mp (hids ▸ by simp)
    · exact (hmem u).mpr (hordered _ _ _ hids u harc)
    · exact hperm.mem_iff.mp (hids ▸ List.mem_append_left _ ((hmem key).mp hkey))

/-- Some edges that carry nothing are deleted, all of them if `keep` is `w.carries seeds`, and seeds
that are not read are put in, taken out or changed. The run of a workflow that passes the check
stays the same, visit by visit, and so does its report, but for the data of the first entry of the
log. -/
theorem report_idle_wiring (e : Engine σ) (w : Workflow) (hcheck : w.check = .ok ())
    (seeds seeds' : Fields) (keep : Edge → Bool)
    (hkeep : ∀ edge ∈ w.edges, w.carries seeds edge → keep edge)
    (hseeds : ∀ key, w.Reads key → Keyed.value? seeds' key = Keyed.value? seeds key) (state : σ) :
    let run := e.run w seeds state
    let run' := e.run (w.keeping keep) seeds' state
    let report := run.report w seeds
    let report' := run'.report (w.keeping keep) seeds'
    run' = run ∧
      (∃ first rest data, report.log = first :: rest ∧
        report' = { report with log := { first with data := data } :: rest }) ∧
      report'.failedNode = report.failedNode ∧ report'.partialOutputs = report.partialOutputs := by
  intro run run' report report'
  have hrun : run' = run := e.run_keeping hkeep hseeds state
  have hreport : ∃ first rest data, report.log = first :: rest ∧
      report' = { report with log := { first with data := data } :: rest } := by
    obtain ⟨order, hplan⟩ := Workflow.check_eq_ok_iff.mp hcheck
    obtain ⟨h, hstarted⟩ := e.exists_run_of_plan hplan seeds state
    simp only [report', hrun, report]
    simp only [run, hstarted]
    exact w.report_keeping keep seeds seeds' order h
  refine ⟨hrun, hreport, ?_, ?_⟩
  · obtain ⟨first, rest, data, -, heq⟩ := hreport
    rw [heq]
    rfl
  · obtain ⟨first, rest, data, -, heq⟩ := hreport
    rw [heq]
    rfl

/-- An edge into nowhere, an edge from nowhere, a seed hidden by a node, and one that no edge
reads. -/
theorem report_idle_wiring_hidden_seed :
    let echo : Handler ℕ := fun config inputs calls =>
      ⟨.ok (.ofData (.ofEntries [("output", config), ("seen", .object inputs)])), 1, calls + 1⟩
    let e : Engine ℕ := ⟨[("echo", ⟨"", echo⟩)], [],
      fun call calls => .pure (.error (.capabilityUnavailable call.capability)) calls, 1000, true⟩
    let w : Workflow := ⟨none, none, [⟨"b", "echo", .null⟩, ⟨"a", "echo", .string "own"⟩],
      [.between "gone" "a", .between "a" "b", .between "s" "a", .between "b" "out"]⟩
    let seeds : Fields := [("a", .string "hidden"), ("s", .bool true), ("unread", .null)]
    let seeds' : Fields := [("b", .string "hidden"), ("s", .bool true)]
    let w' := w.keeping (w.carries seeds)
    w.check = .ok () ∧ w'.edges = [.between "a" "b", .between "s" "a"] ∧
      (∀ key, w.Reads key → Keyed.value? seeds' key = Keyed.value? seeds key) ∧
      e.run w' seeds' 0 = e.run w seeds 0 ∧
      ((e.run w seeds 0).report w seeds).status = .completed := by
  intro echo e w seeds seeds' w'
  have hcheck : w.check = .ok () := by rfl
  have hseeds : ∀ key, w.Reads key → Keyed.value? seeds' key = Keyed.value? seeds key := by
    rintro key ⟨hkey, edge, hedge, rfl, htarget⟩
    simp only [w, List.mem_cons, List.not_mem_nil, or_false] at hedge
    rcases hedge with rfl | rfl | rfl | rfl
    · rfl
    · exact absurd (by decide) hkey
    · rfl
    · exact absurd (by decide) hkey
  obtain ⟨hrun, -⟩ := report_idle_wiring e w hcheck seeds seeds' (w.carries seeds)
    (fun _ _ hcarries => hcarries) hseeds 0
  exact ⟨hcheck, by decide, hseeds, hrun, by decide⟩

end Engine

end Dataflow
