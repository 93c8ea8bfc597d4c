import Dataflow.Run.Log
import Dataflow.Proofs.Clock
import Dataflow.Proofs.Run.Course

/-!
# The log of a run

The log of a run tells its course: after an opening line come two lines for each node that was run
to its end, and then the lines in which the run ended (`Run.Closes`). The times of the entries are
times of the run, in their order, so that they never decrease, in seconds as little as in ticks
(`log_of_run`).
-/

namespace Dataflow

variable {σ : Type}

/-- A line of a log: its level and its message. -/
abbrev Line := Level × String

/-- The lines of a log. -/
def Log.lines (log : Log) : List Line := log.map fun entry => (entry.level, entry.message)

/-- The line with which a node is started. -/
def Node.startLine (n : Node) : Line :=
  (.debug, "Executing node '" ++ n.id ++ "' [" ++ n.type ++ "]")

/-- The lines of a node that is run to its end. -/
def Node.lines (n : Node) : List Line :=
  [n.startLine, (.info, "Node '" ++ n.id ++ "' completed")]

/-- The lines in which a run ends, as it was reported, that has left the nodes of the given list. -/
inductive Run.Closes (run : Run σ) (r : Report) : List Node → List Line → Prop
  /-- No node was left. -/
  | completed (status : r.status = .completed) (reported : r.error = none) :
      Closes run r []
        [(.info, "Workflow completed in " ++ Decimal.fixedText (Clock.seconds r.ticks) 3 ++ "s")]
  /-- The first node that was left failed. -/
  | failed {v : Visit} {rest : List Node} {error : Error} (failure : run.failure? = some v)
      (outcome : v.outcome = .error error) (reported : r.error = some (error.within v.node.id)) :
      Closes run r (v.node :: rest)
        [v.node.startLine, (.error, (error.within v.node.id).message)]
  /-- The limit had passed before the first node that was left. -/
  | stopped {n : Node} {rest : List Node} {elapsed limit : Float} (failure : run.failure? = none)
      (reported : r.error = some (.timeout elapsed limit)) :
      Closes run r (n :: rest)
        [(.warn,
          (Error.timeout elapsed limit).message ++ "; stopping before node '" ++ n.id ++ "'")]

namespace Visit

/-- The entries of a visit are made when the node is started and when it has ended. -/
lemma times_log (v : Visit) : v.log.map LogEntry.time = [v.start, v.finish] := by
  unfold log
  cases v.outcome with
  | ok output => rfl
  | error error => rfl

/-- The lines of a node that was run to its end. -/
lemma Succeeded.lines_log {v : Visit} (hv : v.Succeeded) : Log.lines v.log = v.node.lines := by
  obtain ⟨output, hok⟩ := hv
  unfold log
  rw [hok]
  rfl

/-- The lines of a node that failed. -/
lemma lines_log_of_error {v : Visit} {error : Error} (herror : v.outcome = .error error) :
    Log.lines v.log = [v.node.startLine, (.error, (error.within v.node.id).message)] := by
  unfold log
  rw [herror]
  rfl

/-- The lines of nodes that were run to their end. -/
lemma lines_flatMap_log {visits : List Visit} (hvisits : ∀ v ∈ visits, v.Succeeded) :
    Log.lines (visits.flatMap log) = (visits.map node).flatMap Node.lines := by
  rw [Log.lines, List.map_flatMap, List.flatMap_map]
  exact List.flatMap_congr fun v hv => (hvisits v hv).lines_log

end Visit

namespace Run

/-- The log of a run that was started. -/
lemma report_log (w : Workflow) (seeds : Fields) (order : List String) (h : History σ) :
    ((Run.started order h).report w seeds).log =
      openingEntry w seeds ::
        (h.visits.flatMap Visit.log ++ closingEntries (w.collect order h.outputs) h) := by
  unfold report
  cases hending : h.ending with
  | completed => simp only [hending]
  | failed error => simp only [hending]
  | stopped before error => simp only [hending]

/-- The entries that end a log are made at the end. -/
lemma sublist_times_closingEntries (results : Fields) (h : History σ) :
    List.Sublist ((closingEntries results h).map LogEntry.time) [h.finish] := by
  unfold closingEntries
  cases h.ending with
  | completed => exact List.Sublist.refl _
  | failed error => exact List.nil_sublist _
  | stopped before error => exact List.Sublist.refl _

/-- The times of the entries are times of the run. -/
lemma sublist_times_log (w : Workflow) (seeds : Fields) (order : List String) (h : History σ) :
    List.Sublist (((Run.started order h).report w seeds).log.map LogEntry.time)
      (0 :: h.times) := by
  have hvisits : (h.visits.flatMap Visit.log).map LogEntry.time =
      h.visits.flatMap fun v => [v.start, v.finish] := by
    rw [List.map_flatMap]
    exact List.flatMap_congr fun v _ => v.times_log
  rw [report_log, List.map_cons, List.map_append, hvisits]
  exact ((sublist_times_closingEntries _ h).append_left _).cons_cons _

end Run

namespace Engine

variable {e : Engine σ} {w : Workflow} {seeds : Fields} {order : List String} {h : History σ}
  {done : List Visit} {rest : List Node}

/-- The log of a run tells its course. -/
lemma Course.exists_closes (hc : e.Course w order h done rest) (seeds : Fields) :
    ∃ closing, (Run.started order h).Closes ((Run.started order h).report w seeds) rest closing ∧
      Log.lines ((Run.started order h).report w seeds).log =
        (.info, "Starting workflow '" ++ w.displayName ++ "'") ::
          ((done.map Visit.node).flatMap Node.lines ++ closing) := by
  have hlines : Log.lines ((Run.started order h).report w seeds).log =
      (.info, "Starting workflow '" ++ w.displayName ++ "'") ::
        (Log.lines (h.visits.flatMap Visit.log) ++
          Log.lines (Run.closingEntries (w.collect order h.outputs) h)) := by
    rw [Run.report_log, Log.lines, List.map_cons, List.map_append]
    rfl
  have hticks : ((Run.started order h).report w seeds).ticks = h.finish :=
    Run.report_ticks w seeds order h
  rw [hlines]
  cases hc.ends with
  | completed hvisits hending =>
    obtain ⟨hstatus, -, herror⟩ := Run.report_completed w seeds order hending
    refine ⟨_, .completed hstatus herror, ?_⟩
    rw [hvisits, Visit.lines_flatMap_log hc.succeeded, hticks, Run.closingEntries, hending]
    rfl
  | @failed v left error hvisits houtcome hending =>
    obtain ⟨-, -, herror⟩ := Run.report_error w seeds order (.inl hending)
    have hfailure : (Run.started order h).failure? = some v := by
      simp [Run.failure?, hending, hvisits]
    refine ⟨_, .failed hfailure houtcome herror, ?_⟩
    rw [hvisits, List.flatMap_append, List.flatMap_singleton, Log.lines, List.map_append,
      ← Log.lines, ← Log.lines, Visit.lines_flatMap_log hc.succeeded,
      Visit.lines_log_of_error houtcome, Run.closingEntries, hending]
    exact congrArg _ (List.append_nil _)
  | stopped hvisits hending =>
    obtain ⟨-, -, herror⟩ := Run.report_error w seeds order (.inr ⟨_, hending⟩)
    have hfailure : (Run.started order h).failure? = none := by simp [Run.failure?, hending]
    refine ⟨_, .stopped hfailure herror, ?_⟩
    rw [hvisits, Visit.lines_flatMap_log hc.succeeded, Run.closingEntries, hending]
    rfl

/-- The log of a run. Its times never decrease, nor do the seconds in which they are told. If the
run is rejected, its fault is the only line. Else there is an opening line, then two lines for each
node that has a value, in the order in which they were run, and then the lines in which the run
ended. -/
theorem log_of_run (e : Engine σ) (w : Workflow) (seeds : Fields) (state : σ) {run : Run σ}
    (hrun : run = e.run w seeds state ∨ run = e.runLate w state) :
    let r := run.report w seeds
    (r.log.Pairwise fun earlier later => earlier.time ≤ later.time ∧
        Clock.seconds earlier.time ≤ Clock.seconds later.time) ∧
      (∀ fault, w.plan = .error fault → Log.lines r.log = [(.error, fault.toError.message)]) ∧
      ∀ order, w.plan = .ok order →
        ∃ done rest closing, w.planned order = done ++ rest ∧
          r.order = (done ++ rest).map Node.id ∧
          (∀ id, Keyed.hasKey r.allOutputs id ↔ id ∈ done.map Node.id) ∧
          Log.lines r.log = (.info, "Starting workflow '" ++ w.displayName ++ "'") ::
            (done.flatMap Node.lines ++ closing) ∧
          run.Closes r rest closing := by
  intro r
  rcases e.exists_course w seeds state hrun with
    ⟨fault, hfault, rfl⟩ | ⟨order, h, done, rest, rfl, hc⟩
  · refine ⟨List.pairwise_singleton _ _, ?_, ?_⟩
    · intro fault' hfault'
      obtain rfl := Except.error.inj (hfault.symm.trans hfault')
      rfl
    · intro order hplan
      cases hfault.symm.trans hplan
  · have hsorted : r.log.Pairwise fun earlier later => earlier.time ≤ later.time :=
      List.pairwise_map.mp (hc.clock.sublist (Run.sublist_times_log w seeds order h))
    refine ⟨hsorted.imp fun hle => ⟨hle, Clock.seconds_mono hle⟩, ?_, ?_⟩
    · intro fault hfault
      cases hc.plan.symm.trans hfault
    · intro order' hplan
      obtain rfl := Except.ok.inj (hc.plan.symm.trans hplan)
      obtain ⟨hall, -, horder⟩ := Run.report_started w seeds order h
      obtain ⟨closing, hcloses, hlines⟩ := hc.exists_closes seeds
      have hids : r.order = (done.map Visit.node ++ rest).map Node.id := by
        rw [← hc.planned, Workflow.map_id_planned hc.plan]
        exact horder
      have hkeys : ∀ id, Keyed.hasKey r.allOutputs id ↔
          id ∈ (done.map Visit.node).map Node.id := by
        intro id
        simp only [r, hall, List.map_map]
        exact hc.hasKey_outputs_iff id
      exact ⟨done.map Visit.node, rest, closing, hc.planned, hids, hkeys, hlines, hcloses⟩

/-- Of three nodes in a row the second fails. -/
theorem log_of_run_failing :
    let echo : Handler ℕ := fun _ inputs calls => ⟨.ok (.ofData (.object inputs)), 3, calls + 1⟩
    let fail : Handler ℕ := fun _ _ calls => ⟨.error (.node "out of paper"), 2, calls + 1⟩
    let e : Engine ℕ := ⟨[("echo", ⟨"", echo⟩), ("fail", ⟨"", fail⟩)], [],
      fun call calls => .pure (.error (.capabilityUnavailable call.capability)) calls, 10, true⟩
    let a : Node := ⟨"a", "echo", .null⟩
    let b : Node := ⟨"b", "fail", .null⟩
    let c : Node := ⟨"c", "echo", .null⟩
    let w : Workflow := ⟨some "print", none, [c, b, a], [.between "a" "b", .between "b" "c"]⟩
    let run := e.run w [] 0
    let r := run.report w []
    (r.log.Pairwise fun earlier later => earlier.time ≤ later.time ∧
        Clock.seconds earlier.time ≤ Clock.seconds later.time) ∧
      r.order = ["a", "b", "c"] ∧ Keyed.keys r.allOutputs = ["a"] ∧
      ∃ closing, run.Closes r [b, c] closing ∧
        Log.lines r.log = (.info, "Starting workflow 'print'") :: (a.lines ++ closing) := by
  intro echo fail e a b c w run r
  have hplan : w.plan = .ok ["a", "b", "c"] := by rfl
  have hnodes : w.planned ["a", "b", "c"] = [a, b, c] := by rfl
  have ha : Keyed.hasKey r.allOutputs "a" = true := by decide
  have hb : Keyed.hasKey r.allOutputs "b" = false := by decide
  obtain ⟨hsorted, -, hstarted⟩ := log_of_run e w [] 0 (.inl (Eq.refl run))
  obtain ⟨done, rest, closing, hplanned, horder, hkeys, hlines, hcloses⟩ := hstarted _ hplan
  refine ⟨hsorted, by decide, by decide, closing, ?_⟩
  rw [hnodes] at hplanned
  -- the node with a value is the only one that was run to its end
  match done, hplanned with
  | [], _ => simpa using (hkeys "a").mp ha
  | [_], rfl => exact ⟨hcloses, hlines⟩
  | _ :: _ :: _, hplanned =>
    obtain ⟨-, rfl, -⟩ : _ ∧ b = _ ∧ _ := by simpa using hplanned
    have hmem : Keyed.hasKey r.allOutputs "b" = true := (hkeys "b").mpr (by simp [b])
    rw [hb] at hmem
    cases hmem

end Engine

end Dataflow
