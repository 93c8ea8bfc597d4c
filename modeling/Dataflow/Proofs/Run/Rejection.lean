import Dataflow.Proofs.Run.Outputs
import Dataflow.Proofs.Workflow.Validity
import Dataflow.Run.Standard

/-!
# Rejected runs

A workflow is looked over twice: by `Workflow.check`, which only tells its first fault, and by a
run, which makes a plan before it starts any node. Both find the same: a run is refused exactly
when the check fails, for the same fault (`Engine.refused_iff`), and what the check passes are the
valid workflows.
-/

namespace Dataflow

variable {σ : Type}

/-- A run that was refused: no node was started, the services are left as they were, and the report
holds nothing but an error and the one entry of the log that tells it. -/
structure Run.Refused (w : Workflow) (seeds : Fields) (state : σ) (run : Run σ) : Prop where
  visits : run.visits = []
  state : run.state = state
  order : (run.report w seeds).order = []
  log : (run.report w seeds).log.length = 1
  outputs : (run.report w seeds).outputs = []
  allOutputs : (run.report w seeds).allOutputs = []
  partialOutputs : (run.report w seeds).partialOutputs = none

namespace Run

/-- A rejected run is refused. -/
lemma refused_rejected (w : Workflow) (seeds : Fields) (fault : Fault) (state : σ) :
    (Run.rejected fault state).Refused w seeds state :=
  ⟨rfl, rfl, rfl, rfl, rfl, rfl, rfl⟩

/-- The error of a rejected run is its fault, and the report says no more about it than its text,
its kind and its code: no node is to blame. -/
lemma error_rejected (w : Workflow) (seeds : Fields) (fault : Fault) (state : σ) :
    ((Run.rejected fault state).report w seeds).error = some fault.toError ∧
      ((Run.rejected fault state).report w seeds).errorEntries =
        [("error", .string fault.toError.message),
          ("error_kind", .string fault.toError.kind.name),
          ("error_code", .string fault.toError.code)] :=
  ⟨rfl, rfl⟩

end Run

namespace Engine

variable {w : Workflow}

/-- A run without a plan is rejected, even if its limit has passed at once. -/
lemma run_of_plan_eq_error (e : Engine σ) {fault : Fault} (hplan : w.plan = .error fault)
    (seeds : Fields) (state : σ) :
    e.run w seeds state = .rejected fault state ∧ e.runLate w state = .rejected fault state := by
  rw [run, runLate, hplan]
  exact ⟨rfl, rfl⟩

/-- A run with a plan is started on it, even if its limit has passed at once. -/
lemma order_of_plan_eq_ok (e : Engine σ) {order : List String} (hplan : w.plan = .ok order)
    (seeds : Fields) (state : σ) :
    ((e.run w seeds state).report w seeds).order = order ∧
      ((e.runLate w state).report w seeds).order = order := by
  obtain ⟨h, hrun⟩ := e.exists_run_of_plan hplan seeds state
  refine ⟨hrun ▸ (Run.report_started w seeds order h).2.2, ?_⟩
  rw [runLate, hplan]
  cases order with
  | nil => exact (Run.report_started w seeds _ _).2.2
  | cons id order => exact (Run.report_started w seeds _ _).2.2

/-- A run is refused, and its report names no order, exactly when the check of the workflow fails.
Its error is then the fault that the check tells. The check passes the workflows that have a node,
whose identifiers are distinct and not empty, whose types are not empty, and whose edges between
nodes form no cycle. -/
theorem refused_iff (e : Engine σ) (w : Workflow) (seeds : Fields) (state : σ) {run : Run σ}
    (hrun : run = e.run w seeds state ∨ run = e.runLate w state) :
    (run.Refused w seeds state ↔ ∃ fault, w.check = .error fault) ∧
    ((run.report w seeds).order = [] ↔ ∃ fault, w.check = .error fault) ∧
    (∀ fault, w.check = .error fault →
      (run.report w seeds).error = some fault.toError ∧
      (run.report w seeds).errorEntries =
        [("error", .string fault.toError.message),
          ("error_kind", .string fault.toError.kind.name),
          ("error_code", .string fault.toError.code)]) ∧
    (w.check = .ok () ↔ w.Valid) := by
  have hrejected : ∀ fault, w.check = .error fault → run = .rejected fault state := by
    intro fault hcheck
    obtain ⟨htimely, hlate⟩ :=
      e.run_of_plan_eq_error (Workflow.check_eq_error_iff.mp hcheck) seeds state
    rcases hrun with rfl | rfl
    · exact htimely
    · exact hlate
  have hrefused : (∃ fault, w.check = .error fault) → run.Refused w seeds state := by
    rintro ⟨fault, hcheck⟩
    exact hrejected fault hcheck ▸ Run.refused_rejected w seeds fault state
  -- a run that is not rejected reports its plan, and a plan holds all nodes
  have hfault : (run.report w seeds).order = [] → ∃ fault, w.check = .error fault := by
    intro hempty
    cases hplan : w.plan with
    | error fault => exact ⟨fault, Workflow.check_eq_error_iff.mpr hplan⟩
    | ok order =>
      have horder : (run.report w seeds).order = order := by
        obtain ⟨htimely, hlate⟩ := e.order_of_plan_eq_ok hplan seeds state
        rcases hrun with rfl | rfl
        · exact htimely
        · exact hlate
      exact absurd (horder.symm.trans hempty) (Workflow.ne_nil_of_plan hplan)
  refine ⟨⟨fun h => hfault h.order, hrefused⟩, ⟨hfault, fun h => (hrefused h).order⟩,
    fun fault hcheck => ?_, Workflow.check_eq_ok_iff_valid⟩
  rw [hrejected fault hcheck]
  exact Run.error_rejected w seeds fault state

/-- Two nodes that read from each other, behind one that could be run. -/
theorem refused_iff_behind_first :
    let count : Handler ℕ := fun _ _ calls => .pure (.ok (.single .null)) (calls + 1)
    let e : Engine ℕ := ⟨[("count", ⟨"", count⟩)], [],
      fun call calls => .pure (.error (.capabilityUnavailable call.capability)) (calls + 1),
      1000, true⟩
    let w : Workflow := ⟨none, none, [⟨"b", "count", .null⟩, ⟨"a", "count", .null⟩,
      ⟨"c", "count", .null⟩], [.between "a" "b", .between "b" "c", .between "c" "b"]⟩
    let run := e.run w [] 0
    w.check = .error (.cycle ["b", "c"]) ∧ run.Refused w [] 0 ∧
      (run.report w []).error = some (Fault.cycle ["b", "c"]).toError := by
  intro count e w run
  have hcheck : w.check = .error (.cycle ["b", "c"]) := by rfl
  have hrun : run = e.run w [] 0 ∨ run = e.runLate w 0 := Or.inl rfl
  obtain ⟨hrefused, -, herror, -⟩ := refused_iff e w [] 0 hrun
  exact ⟨hcheck, hrefused.mpr ⟨_, hcheck⟩, (herror _ hcheck).1⟩

end Engine

end Dataflow
