import Dataflow.Run.Metrics
import Dataflow.Proofs.Run.Attribution
import Dataflow.Proofs.Run.Course

/-!
# What a run records

A node is counted once if the engine has a handler for it, and its time is recorded whenever it is
counted (`count_nodeSeconds`). So a run counts the nodes that were run to their end, and the one
that failed unless that one had no handler (`Course.counted_samples`). The counters are known from
the report of the run, whatever the engine does (`samples_of_run`).
-/

namespace Dataflow

variable {σ : Type}

/-- The type and the status of the nodes that a series counts. -/
def Series.counted? : Series → Option (String × String)
  | .nodes type status => some (type, status)
  | _ => none

/-- The engine counts nodes whose type is registered, and those whose type is not built in. -/
def Engine.counts (e : Engine σ) (n : Node) : Bool :=
  Keyed.hasKey e.registry n.type || !n.kind.isBuiltin

/-! ## Visits -/

namespace Visit

/-- Success is the status of the nodes that were run to their end. -/
lemma status_eq_success_iff (v : Visit) : v.status = "success" ↔ v.Succeeded := by
  unfold status Succeeded
  split
  · rename_i output hok
    simp [hok]
  · rename_i elapsed limit herror
    simp [herror]
  · rename_i error _ herror
    simp [herror]

/-- Timeout is the status of the nodes whose error is a timeout itself. -/
lemma status_eq_timeout_iff (v : Visit) :
    v.status = "timeout" ↔ ∃ elapsed limit, v.outcome = .error (.timeout elapsed limit) := by
  unfold status
  split
  · rename_i output hok
    simp [hok]
  · rename_i elapsed limit herror
    simp [herror]
  · rename_i error hother herror
    simpa [herror] using fun elapsed limit heq => hother elapsed limit heq

/-- A visit is counted if there was a handler to run. -/
lemma counted_samples (v : Visit) :
    v.samples.filterMap Series.counted? =
      if v.handled then [(v.node.type, v.status)] else [] := by
  unfold samples
  split
  · rfl
  · rfl

/-- Visits are counted if there was a handler to run. -/
lemma counted_flatMap_samples (visits : List Visit) :
    (visits.flatMap samples).filterMap Series.counted? =
      (visits.filter handled).map fun v => (v.node.type, v.status) := by
  induction visits with
  | nil => rfl
  | cons v visits ih =>
    rw [List.flatMap_cons, List.filterMap_append, counted_samples, ih, List.filter_cons]
    cases v.handled with
    | true => rfl
    | false => rfl

/-- For every node that is counted its time is recorded under its type. -/
lemma count_nodeSeconds (visits : List Visit) (type : String) :
    (visits.flatMap samples).count (.nodeSeconds type) =
      ((visits.flatMap samples).filterMap Series.counted?).countP fun c => c.1 = type := by
  rw [counted_flatMap_samples]
  induction visits with
  | nil => rfl
  | cons v visits ih =>
    rw [List.flatMap_cons, List.count_append, ih, samples, List.filter_cons]
    cases v.handled with
    | true => simp [List.count_cons, List.countP_cons, Nat.add_comm]
    | false => simp

/-- Visits record nothing about workflows. -/
lemma count_workflows (visits : List Visit) (status : Status) :
    (visits.flatMap samples).count (.workflows status) = 0 ∧
      (visits.flatMap samples).count .workflowSeconds = 0 := by
  have hnodes : ∀ s ∈ visits.flatMap samples,
      s ≠ .workflows status ∧ s ≠ .workflowSeconds := by
    intro s hs
    obtain ⟨v, -, hs⟩ := List.mem_flatMap.mp hs
    unfold samples at hs
    split at hs
    · rcases List.mem_pair.mp hs with rfl | rfl
      · simp
      · simp
    · cases hs
  exact ⟨List.count_eq_zero.mpr fun hs => (hnodes _ hs).1 rfl,
    List.count_eq_zero.mpr fun hs => (hnodes _ hs).2 rfl⟩

end Visit

/-! ## Runs -/

/-- A run records its visits and itself. -/
lemma Run.samples_eq (w : Workflow) (seeds : Fields) (run : Run σ) :
    run.samples w seeds = run.visits.flatMap Visit.samples ++
      [.workflows (run.report w seeds).status, .workflowSeconds] := by
  cases run with
  | rejected fault state => rfl
  | started order h => rfl

/-- A run counts a node under a status if it was visited with this status and had a handler. -/
lemma Run.nodes_mem_samples_iff (w : Workflow) (seeds : Fields) (run : Run σ)
    (type status : String) :
    Series.nodes type status ∈ run.samples w seeds ↔
      ∃ v ∈ run.visits, v.handled = true ∧ v.node.type = type ∧ v.status = status := by
  simp only [samples_eq, List.mem_append, List.mem_flatMap, List.mem_pair, reduceCtorEq, or_self,
    or_false]
  refine exists_congr fun v => and_congr_right fun _ => ?_
  unfold Visit.samples
  cases v.handled with
  | true => simp [eq_comm]
  | false => simp

/-- A run is counted once, under the status of its report, and its time is recorded once. -/
lemma Run.count_workflows (w : Workflow) (seeds : Fields) (run : Run σ) :
    (∀ status, (run.samples w seeds).count (.workflows status) =
        if status = (run.report w seeds).status then 1 else 0) ∧
      (run.samples w seeds).count .workflowSeconds = 1 := by
  rw [samples_eq]
  refine ⟨fun status => ?_, ?_⟩
  · rw [List.count_append, (Visit.count_workflows run.visits status).1]
    by_cases heq : status = (run.report w seeds).status
    · simp [heq]
    · simp [heq, Ne.symm heq]
  · rw [List.count_append, (Visit.count_workflows run.visits .completed).2]
    simp

/-- For every node that a run counts its time is recorded under its type. -/
lemma Run.count_nodeSeconds (w : Workflow) (seeds : Fields) (run : Run σ) (type : String) :
    (run.samples w seeds).count (.nodeSeconds type) =
      ((run.samples w seeds).filterMap Series.counted?).countP fun c => c.1 = type := by
  rw [samples_eq, List.count_append, Visit.count_nodeSeconds, List.filterMap_append,
    List.countP_append]
  rfl

namespace Engine

variable {e : Engine σ} {w : Workflow} {seeds : Fields} {order : List String} {h : History σ}
  {done : List Visit} {rest : List Node}

/-- The nodes that the engine counts are those for which it has a handler. -/
lemma isSome_handler? (e : Engine σ) (n : Node) : (e.handler? n).isSome = e.counts n := by
  unfold handler? counts Keyed.hasKey
  cases Keyed.value? e.registry n.type with
  | some t => rfl
  | none => cases n.kind <;> rfl

/-- There was a handler to run for the nodes that the engine counts. -/
lemma handled_of_visit {n : Node} {inputs : Fields} {start : ℕ} {state state' : σ} {v : Visit}
    (hvisit : e.visit n inputs start state = (v, state')) : v.handled = e.counts n := by
  rw [← isSome_handler?]
  rcases visit_cases hvisit with ⟨hnone, rfl, -⟩ | ⟨handler, effect, hsome, -, rfl, -⟩
  · rw [hnone]
    rfl
  · rw [hsome]
    rfl

namespace Course

/-- The node whose failure ended the run is not counted as a success. -/
lemma status_ne_success (hc : e.Course w order h done rest) {v : Visit}
    (hfailure : (Run.started order h).failure? = some v) : v.status ≠ "success" := by
  obtain ⟨-, error, herror⟩ := hc.failure?_eq_some_iff.mp hfailure
  refine mt v.status_eq_success_iff.mp ?_
  rintro ⟨output, hok⟩
  cases hok.symm.trans herror

/-- A run counts the nodes that were run to their end as successes, and the node whose failure ended
it if the engine counts this node. -/
lemma counted_samples (hc : e.Course w order h done rest) (seeds : Fields) :
    ((Run.started order h).samples w seeds).filterMap Series.counted? =
      done.map (fun v => (v.node.type, "success")) ++
        ((Run.started order h).failure?.toList.filter fun v => e.counts v.node).map
          fun v => (v.node.type, v.status) := by
  have hhandled : ∀ v ∈ h.visits, v.handled = e.counts v.node := fun v hv => by
    obtain ⟨state, state', hvisit⟩ := hc.made v hv
    exact handled_of_visit hvisit
  have hdone : ∀ v ∈ done, v.handled = true := fun v hv => by
    have hmem : v ∈ h.visits := hc.visits_eq ▸ List.mem_append_left _ hv
    obtain ⟨state, state', hvisit⟩ := hc.made v hmem
    obtain ⟨output, hok⟩ := hc.succeeded v hv
    exact (exists_handler_of_ok hvisit hok).1
  have hfailure : ∀ v ∈ (Run.started order h).failure?.toList, v.handled = e.counts v.node :=
    fun v hv => hhandled v (hc.visits_eq ▸ List.mem_append_right _ hv)
  have hvisits : (Run.started order h).visits = h.visits := rfl
  rw [Run.samples_eq, List.filterMap_append, Visit.counted_flatMap_samples, hvisits, hc.visits_eq,
    List.filter_append, List.filter_eq_self.mpr hdone, List.filter_congr hfailure, List.map_append]
  have hstatus : done.map (fun v => (v.node.type, v.status)) =
      done.map fun v => (v.node.type, "success") :=
    List.map_congr_left fun v hv => by
      rw [(Visit.status_eq_success_iff v).mpr (hc.succeeded v hv)]
  rw [hstatus]
  exact List.append_nil _

/-- As many nodes are counted as successes as were run to their end. -/
lemma countP_success (hc : e.Course w order h done rest) (seeds : Fields) :
    (((Run.started order h).samples w seeds).filterMap Series.counted?).countP
      (fun c => c.2 = "success") = done.length := by
  have hfailure : ∀ v ∈ (Run.started order h).failure?.toList, v.status ≠ "success" :=
    fun v hv => hc.status_ne_success (Option.mem_toList.mp hv)
  rw [hc.counted_samples, List.countP_append, List.countP_map, List.countP_map,
    List.countP_eq_length.mpr (by simp), List.countP_eq_zero.mpr, Nat.add_zero]
  intro v hv
  simpa using hfailure v (List.mem_of_mem_filter hv)

/-- Under another status only the node is counted whose failure ended the run. -/
lemma countP_not_success (hc : e.Course w order h done rest) (seeds : Fields) :
    (((Run.started order h).samples w seeds).filterMap Series.counted?).countP
      (fun c => c.2 ≠ "success") =
        if (Run.started order h).failure?.any fun v => e.counts v.node then 1 else 0 := by
  rw [hc.counted_samples, List.countP_append, List.countP_map, List.countP_map,
    List.countP_eq_zero.mpr (by simp), Nat.zero_add]
  cases hfailure : (Run.started order h).failure? with
  | none => rfl
  | some v =>
    have hstatus : v.status ≠ "success" := hc.status_ne_success hfailure
    cases hcounts : e.counts v.node with
    | true => simp [hcounts, hstatus]
    | false => simp [hcounts]

/-- A run was ended by the failure of a node exactly if its report names a failed node. -/
lemma isSome_failure? (hc : e.Course w order h done rest) (seeds : Fields) :
    (Run.started order h).failure?.isSome =
      ((Run.started order h).report w seeds).failedNode.isSome := by
  rw [Report.failedNode]
  cases hc.ends with
  | completed _ hending =>
    simp [Run.failure?, hending, (Run.report_completed w seeds order hending).2.2]
  | stopped _ hending =>
    rw [(Run.report_error w seeds order (.inr ⟨_, hending⟩)).2.2]
    simp [Run.failure?, hending, Error.node?]
  | failed hvisits _ hending =>
    rw [(Run.report_error w seeds order (.inl hending)).2.2]
    simp [Run.failure?, hending, hvisits, Error.isSome_node?_within]

end Course

/-! ## What is counted -/

/-- The counters of a run. The run is counted once, under the status of its report, and its time is
recorded once. As many nodes are counted as successes as the report holds values, the time of every
node is recorded that is counted, and under another status only the node is counted whose failure
ended the run, if there is one and the engine counts this node. -/
theorem samples_of_run (e : Engine σ) (w : Workflow) (seeds : Fields) (state : σ) {run : Run σ}
    (hrun : run = e.run w seeds state ∨ run = e.runLate w state) :
    let r := run.report w seeds
    let samples := run.samples w seeds
    let counted := samples.filterMap Series.counted?
    (∀ status, samples.count (.workflows status) = if status = r.status then 1 else 0) ∧
      samples.count .workflowSeconds = 1 ∧
      (counted.countP fun c => c.2 = "success") = (Keyed.keys r.allOutputs).length ∧
      (∀ type, samples.count (.nodeSeconds type) = counted.countP fun c => c.1 = type) ∧
      (counted.countP fun c => c.2 ≠ "success") =
        (if run.failure?.any fun v => e.counts v.node then 1 else 0) ∧
      run.failure?.isSome = r.failedNode.isSome := by
  intro r samples counted
  obtain ⟨hworkflows, hseconds⟩ := run.count_workflows w seeds
  refine ⟨hworkflows, hseconds, ?_⟩
  have hnodes : ∀ type, samples.count (.nodeSeconds type) = counted.countP fun c => c.1 = type :=
    run.count_nodeSeconds w seeds
  rcases e.exists_course w seeds state hrun with ⟨fault, -, rfl⟩ | ⟨order, h, done, rest, rfl, hc⟩
  · exact ⟨rfl, hnodes, rfl, rfl⟩
  · have hkeys : (Keyed.keys r.allOutputs).length = done.length := by
      rw [Keyed.keys, List.length_map, ← hc.length_outputs]
      exact congrArg List.length (Run.report_started w seeds order h).1
    exact ⟨(hc.countP_success seeds).trans hkeys.symm, hnodes, hc.countP_not_success seeds,
      hc.isSome_failure? seeds⟩

/-- Of two nodes of one type the first ends just at the limit, and the second is cut off there. -/
theorem samples_of_run_cut_off :
    let wait : Handler ℕ := fun _ _ calls => ⟨.ok (.single .null), 10, calls + 1⟩
    let e : Engine ℕ := ⟨[("wait", ⟨"", wait⟩)], [],
      fun call calls => .pure (.error (.capabilityUnavailable call.capability)) calls, 10, true⟩
    let w : Workflow := ⟨none, none, [⟨"a", "wait", .null⟩, ⟨"b", "wait", .null⟩,
      ⟨"c", "wait", .null⟩], [.between "a" "b", .between "b" "c"]⟩
    let run := e.run w [] 0
    let counted := (run.samples w []).filterMap Series.counted?
    Keyed.keys (run.report w []).allOutputs = ["a"] ∧
      (counted.countP fun c => c.2 = "success") = 1 ∧
      (counted.countP fun c => c.2 ≠ "success") = 1 ∧
      (run.samples w []).count (.workflows .timedOut) = 1 := by
  intro wait e w run counted
  have hkeys : Keyed.keys (run.report w []).allOutputs = ["a"] := by decide
  have hstatus : (run.report w []).status = .timedOut := by decide
  obtain ⟨hworkflows, -, hsuccess, -, hothers, -⟩ := samples_of_run e w [] 0 (.inl rfl)
  refine ⟨hkeys, hsuccess.trans (by rw [hkeys]; rfl), hothers.trans ?_, ?_⟩
  · rfl
  · exact (hworkflows .timedOut).trans (if_pos hstatus.symm)

/-! ## Timeouts -/

/-- A run that was started reports a timeout at a node exactly if the node whose failure ended it
has an error of that category. -/
lemma Course.timedOut_iff (hc : e.Course w order h done rest) (seeds : Fields) :
    (((Run.started order h).report w seeds).status = .timedOut ∧
        ((Run.started order h).report w seeds).failedNode.isSome) ↔
      ∃ v error, (Run.started order h).failure? = some v ∧ v.outcome = .error error ∧
        error.kind = .timeout := by
  rw [← hc.isSome_failure?]
  cases hc.ends with
  | completed _ hending => simp [Run.failure?, hending]
  | stopped _ hending => simp [Run.failure?, hending]
  | @failed v left error hvisits houtcome hending =>
    rw [(Run.report_error w seeds order (.inl hending)).1]
    simp [Run.failure?, hending, hvisits, houtcome, Status.ofError, Error.kind_within]

/-- A run counts a timeout exactly if the error of the node whose failure ended it is a timeout
itself. -/
lemma Course.counts_timeout_iff (hc : e.Course w order h done rest) (seeds : Fields) :
    (∃ type, Series.nodes type "timeout" ∈ (Run.started order h).samples w seeds) ↔
      ∃ v elapsed limit, (Run.started order h).failure? = some v ∧
        v.outcome = .error (.timeout elapsed limit) := by
  simp only [Run.nodes_mem_samples_iff, Visit.status_eq_timeout_iff, hc.failure?_eq_some_iff]
  constructor
  · rintro ⟨type, v, hv, -, -, elapsed, limit, houtcome⟩
    exact ⟨v, elapsed, limit, ⟨hv, _, houtcome⟩, houtcome⟩
  · rintro ⟨v, elapsed, limit, ⟨hv, -⟩, houtcome⟩
    refine ⟨v.node.type, v, hv, ?_, rfl, elapsed, limit, houtcome⟩
    -- a node without a handler has another error
    obtain ⟨state, state', hvisit⟩ := hc.made v hv
    rcases visit_cases hvisit with ⟨-, heq, -⟩ | ⟨handler, effect, -, -, heq, -⟩
    · rw [heq] at houtcome
      cases houtcome
    · rw [heq]

/-- A run counts a timeout of a node exactly if its report tells one, with the node that failed, as
long as that node's handler has not attributed its error to a node. Of an attributed timeout the
report tells as of any other, and the node is not counted as timed out. -/
theorem timeouts_of_run (e : Engine σ) (w : Workflow) (seeds : Fields) (state : σ) {run : Run σ}
    (hrun : run = e.run w seeds state ∨ run = e.runLate w state) :
    let r := run.report w seeds
    (∃ type, .nodes type "timeout" ∈ run.samples w seeds) ↔
      r.status = .timedOut ∧ r.failedNode.isSome ∧
        ∀ v ∈ run.visits, ∀ error, v.outcome = .error error → error.node? = none := by
  intro r
  rcases e.exists_course w seeds state hrun with ⟨fault, -, rfl⟩ | ⟨order, h, done, rest, rfl, hc⟩
  · simp [r, Run.samples, Run.report]
  rw [hc.counts_timeout_iff, ← and_assoc, hc.timedOut_iff]
  constructor
  · rintro ⟨v, elapsed, limit, hfailure, houtcome⟩
    refine ⟨⟨v, _, hfailure, houtcome, rfl⟩, fun u hu error herror => ?_⟩
    obtain rfl : v = u :=
      Option.some.inj (hfailure.symm.trans (hc.failure?_eq_some_iff.mpr ⟨hu, error, herror⟩))
    obtain rfl := Except.error.inj (houtcome.symm.trans herror)
    rfl
  · rintro ⟨⟨v, error, hfailure, houtcome, hkind⟩, hunattributed⟩
    obtain ⟨hv, -⟩ := hc.failure?_eq_some_iff.mp hfailure
    have hnode : error.node? = none := hunattributed v hv error houtcome
    obtain ⟨elapsed, limit, rfl⟩ := Error.eq_timeout_of_kind hkind hnode
    exact ⟨v, elapsed, limit, hfailure, houtcome⟩

/-- A node that is cut off at the limit. -/
theorem timeouts_of_run_cut_off :
    let wait : Handler ℕ := fun _ _ calls => ⟨.ok (.single .null), 20, calls + 1⟩
    let e : Engine ℕ := ⟨[("wait", ⟨"", wait⟩)], [],
      fun call calls => .pure (.error (.capabilityUnavailable call.capability)) calls, 10, true⟩
    let w : Workflow := ⟨none, none, [⟨"a", "wait", .null⟩], []⟩
    let run := e.run w [] 0
    (∃ type, .nodes type "timeout" ∈ run.samples w []) ∧
      (run.report w []).status = .timedOut ∧ (run.report w []).failedNode = some "a" := by
  intro wait e w run
  have hstatus : (run.report w []).status = .timedOut := by decide
  have hnode : (run.report w []).failedNode = some "a" := by decide
  refine ⟨(timeouts_of_run e w [] 0 (.inl rfl)).mpr ⟨hstatus, by rw [hnode]; rfl, ?_⟩, hstatus,
    hnode⟩
  intro v hv error herror
  have hvisits : run.visits =
      [⟨⟨"a", "wait", .null⟩, [], 0, 10, true, .error (e.timeout 10)⟩] := rfl
  rw [hvisits, List.mem_singleton] at hv
  subst hv
  obtain rfl := Except.error.inj herror
  rfl

/-- A handler that attributes a timeout to its node, as one does that runs a workflow in turn. -/
theorem timeouts_of_run_attributed :
    let nested : Handler ℕ := fun _ _ calls => .pure (.error (.inNode "a" (.timeout 2 1))) calls
    let e : Engine ℕ := ⟨[("nested", ⟨"", nested⟩)], [],
      fun call calls => .pure (.error (.capabilityUnavailable call.capability)) calls, 1000, false⟩
    let w : Workflow := ⟨none, none, [⟨"a", "nested", .object []⟩], []⟩
    let run := e.run w [] 0
    (run.report w []).status = .timedOut ∧ (run.report w []).failedNode = some "a" ∧
      ¬ ∃ type, .nodes type "timeout" ∈ run.samples w [] := by
  intro nested e w run
  refine ⟨by decide, by decide, ?_⟩
  rintro ⟨type, htype⟩
  have hsamples : run.samples w [] = [.nodes "nested" "failed", .nodeSeconds "nested",
      .workflows .timedOut, .workflowSeconds] := rfl
  simp [hsamples] at htype

end Engine

end Dataflow
