import Dataflow.Run.Standard
import Dataflow.Proofs.Run.Limit

/-!
# The course of a run

A run is rejected, or it is started on a plan (`Engine.exists_course`). In a run that was started
the planned nodes fall into those that were run to their end and those that were left, and the run
ended in one of three ways: no node was left, or the first one that was left failed, or the limit
had passed before it (`History.Ends`). This holds even if the limit has passed at once.

What a report, a log or the metrics tell of a run can be read off its course.
-/

namespace Dataflow

variable {σ : Type}

namespace History

/-- The times at which nodes were started and ended, and that at the end. -/
def times (h : History σ) : List ℕ := h.visits.flatMap (fun v => [v.start, v.finish]) ++ [h.finish]

end History

/-- The visit to the node whose failure ended the run. -/
def Run.failure? : Run σ → Option Visit
  | .rejected _ _ => none
  | .started _ h => match h.ending with
    | .failed _ => h.visits.getLast?
    | _ => none

namespace Engine

variable {e : Engine σ} {w : Workflow} {g : Graph} {seeds outputs : Fields} {nodes rest : List Node}
  {now : ℕ} {state : σ} {order : List String} {h : History σ} {done : List Visit}

/-! ## Walks -/

/-- The clock is not turned back in a walk. -/
lemma Walked.times_sorted (hw : e.Walked g seeds nodes outputs now state h) :
    (now :: h.times).Pairwise (· ≤ ·) := by
  induction hw with
  | completed => simp [History.times]
  | stopped => simp [History.times]
  | failed _ hvisit _ =>
    obtain ⟨-, -, hstart⟩ := of_visit hvisit
    simp [History.times, hstart, start_le_finish hvisit]
  | @next n rest outputs now state state' v output h _ hvisit _ _ ih =>
    obtain ⟨-, -, hstart⟩ := of_visit hvisit
    have hle : now ≤ v.finish := start_le_finish hvisit
    obtain ⟨hlater, -⟩ := List.pairwise_cons.mp ih
    have htimes : History.times { h with visits := v :: h.visits } =
        v.start :: v.finish :: h.times := rfl
    rw [htimes, hstart]
    refine List.pairwise_cons.mpr ⟨fun time htime => ?_, List.pairwise_cons.mpr ⟨?_, ih⟩⟩
    · rcases List.mem_cons.mp htime with rfl | htime
      · exact le_rfl
      rcases List.mem_cons.mp htime with rfl | htime
      · exact hle
      · exact hle.trans (hlater time htime)
    · intro time htime
      rcases List.mem_cons.mp htime with rfl | htime
      · exact hle
      · exact hle.trans (hlater time htime)

/-! ## Runs -/

/-- The course of a run that was started: the visits `done` were run to their end, and the nodes
`rest` of its plan were left. -/
structure Course (e : Engine σ) (w : Workflow) (order : List String) (h : History σ)
    (done : List Visit) (rest : List Node) : Prop where
  plan : w.plan = .ok order
  planned : w.planned order = done.map Visit.node ++ rest
  succeeded : ∀ v ∈ done, v.Succeeded
  ends : h.Ends done rest
  made : ∀ v ∈ h.visits, ∃ state state', e.visit v.node v.inputs v.start state = (v, state')
  clock : (0 :: h.times).Pairwise (· ≤ ·)

/-- The course of a run that follows a walk. -/
lemma Walked.exists_course (hplan : w.plan = .ok order)
    (hw : e.Walked (Graph.ofWorkflow w) seeds (w.planned order) [] 0 state h) :
    ∃ done rest, e.Course w order h done rest := by
  obtain ⟨done, rest, hplanned, hdone, hends⟩ := hw.exists_ends
  exact ⟨done, rest, hplan, hplanned, hdone, hends, fun v hv => hw.visit_eq hv, hw.times_sorted⟩

/-- A run is rejected, or it has a course. -/
lemma exists_course (e : Engine σ) (w : Workflow) (seeds : Fields) (state : σ) {run : Run σ}
    (hrun : run = e.run w seeds state ∨ run = e.runLate w state) :
    (∃ fault, w.plan = .error fault ∧ run = .rejected fault state) ∨
      ∃ order h done rest, run = .started order h ∧ e.Course w order h done rest := by
  rcases hrun with rfl | rfl
  · cases hplan : w.plan with
    | error fault => exact .inl ⟨fault, rfl, by rw [Engine.run, hplan]⟩
    | ok order =>
      obtain ⟨h, hstarted⟩ := e.exists_run_of_plan hplan seeds state
      obtain ⟨done, rest, hcourse⟩ := (walked_of_run hstarted).2.exists_course hplan
      exact .inr ⟨order, h, done, rest, hstarted, hcourse⟩
  · rcases e.runLate_cases w state with hrejected | ⟨order, n, rest, hplan, hplanned, hlate⟩
    · exact .inl hrejected
    · exact .inr ⟨order, _, [], n :: rest, hlate, hplan, hplanned, by simp, .stopped rfl rfl,
        by simp, by simp [History.times]⟩

namespace Course

/-- The nodes that were visited are those that were run to their end and the one that failed, if one
did. -/
lemma visits_eq (hc : e.Course w order h done rest) :
    h.visits = done ++ (Run.started order h).failure?.toList := by
  cases hc.ends with
  | completed hvisits hending => simp [Run.failure?, hvisits, hending]
  | failed hvisits _ hending => simp [Run.failure?, hvisits, hending]
  | stopped hvisits hending => simp [Run.failure?, hvisits, hending]

/-- The node whose failure ended the run is the one that was visited and did not succeed. -/
lemma failure?_eq_some_iff (hc : e.Course w order h done rest) {v : Visit} :
    (Run.started order h).failure? = some v ↔
      v ∈ h.visits ∧ ∃ error, v.outcome = .error error := by
  constructor
  · intro hfailure
    refine ⟨by simp [hc.visits_eq, hfailure], ?_⟩
    cases hc.ends with
    | completed _ hending => simp [Run.failure?, hending] at hfailure
    | stopped _ hending => simp [Run.failure?, hending] at hfailure
    | failed hvisits houtcome hending =>
      obtain rfl : _ = v := by simpa [Run.failure?, hending, hvisits] using hfailure
      exact ⟨_, houtcome⟩
  · rintro ⟨hv, error, herror⟩
    rw [hc.visits_eq] at hv
    rcases List.mem_append.mp hv with hv | hv
    · obtain ⟨output, hok⟩ := hc.succeeded v hv
      cases hok.symm.trans herror
    · exact Option.mem_toList.mp hv

/-- The nodes that were visited are distinct. -/
lemma nodup_visits (hc : e.Course w order h done rest) :
    (h.visits.map fun v => v.node.id).Nodup := by
  have hids : (done.map fun v => v.node.id) ++ rest.map Node.id = order := by
    rw [← Workflow.map_id_planned hc.plan, hc.planned, List.map_append, List.map_map]
    rfl
  have hdistinct := Workflow.nodup_of_plan hc.plan
  rw [← hids] at hdistinct
  cases hc.ends with
  | completed hvisits _ => exact hvisits ▸ (List.nodup_append.mp hdistinct).1
  | stopped hvisits _ => exact hvisits ▸ (List.nodup_append.mp hdistinct).1
  | @failed v left error hvisits _ _ =>
    rw [hvisits, List.map_append]
    refine hdistinct.sublist (List.Sublist.append_left ?_ _)
    exact (List.nil_sublist _).cons_cons _

/-- What the nodes yielded that were visited is what those yielded that were run to their end. -/
lemma filterMap_yield? (hc : e.Course w order h done rest) :
    h.visits.filterMap Visit.yield? = done.filterMap Visit.yield? := by
  cases hc.ends with
  | completed hvisits _ => rw [hvisits]
  | stopped hvisits _ => rw [hvisits]
  | @failed v left error hvisits houtcome _ =>
    have hnone : v.yield? = none := by rw [Visit.yield?, houtcome]
    rw [hvisits, List.filterMap_append, List.filterMap_cons_none hnone, List.filterMap_nil,
      List.append_nil]

/-- The nodes with a value are those that were run to their end. -/
lemma map_fst_yield? (hc : e.Course w order h done rest) :
    (h.visits.filterMap Visit.yield?).map Prod.fst = done.map fun v => v.node.id := by
  rw [hc.filterMap_yield?]
  have hall := hc.succeeded
  clear hc
  induction done with
  | nil => rfl
  | cons v done ih =>
    obtain ⟨⟨output, hok⟩, hdone⟩ := List.forall_mem_cons.mp hall
    have hyield : v.yield? = some (v.node.id, output.data) := by rw [Visit.yield?, hok]
    rw [List.filterMap_cons_some hyield, List.map_cons, List.map_cons, ih hdone]

/-- Exactly the nodes that were run to their end have a value. -/
lemma hasKey_outputs_iff (hc : e.Course w order h done rest) (id : String) :
    Keyed.hasKey h.outputs id ↔ id ∈ done.map fun v => v.node.id := by
  rw [Keyed.hasKey, History.outputs, Keyed.ofEntries, Keyed.isSome_value?_putAll,
    hc.map_fst_yield?]
  simp

/-- There are as many values as nodes that were run to their end. -/
lemma length_outputs (hc : e.Course w order h done rest) : h.outputs.length = done.length := by
  have hdistinct : ((h.visits.filterMap Visit.yield?).map Prod.fst).Nodup :=
    (Visit.sublist_map_fst_yield? h.visits).nodup hc.nodup_visits
  have hlength := congrArg List.length hc.map_fst_yield?
  rw [List.length_map, List.length_map] at hlength
  rw [History.outputs, Keyed.length_ofEntries hdistinct, hlength]

end Course

end Engine

end Dataflow
