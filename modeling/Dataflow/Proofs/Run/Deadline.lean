import Dataflow.Proofs.Run.Limit
import Dataflow.Proofs.Run.Shapes

/-!
# Cooperative and enforcing runs side by side

A cooperative and an enforcing engine run the same nodes with the same outcomes until a node is
still running when the limit passes (`Engine.walk_enforcing`). If there is no such node, the runs
are the same. If there is one, it is the last that either of them starts: the enforcing run ends at
the limit with a timeout of that node (`History.CutShort.fits_enforcing`), while the cooperative one
lets the node finish and then goes by its outcome (`History.CutShort.overran_cooperative`).
-/

namespace Dataflow

variable {σ : Type}

namespace Visit

/-- The time for which the visited nodes ran, taken together. -/
def elapsed (visits : List Visit) : ℕ := (visits.map fun v => v.finish - v.start).sum

/-- The positions of the visits at whose end more time has passed than the limit. -/
def overruns (limit : ℕ) (visits : List Visit) : Set ℕ :=
  {k | k < visits.length ∧ limit < elapsed (visits.take (k + 1))}

lemma elapsed_cons (v : Visit) (visits : List Visit) :
    elapsed (v :: visits) = v.finish - v.start + elapsed visits := by
  rw [elapsed, elapsed, List.map_cons, List.sum_cons]

end Visit

namespace History

/-- A cooperative history `h` and the enforcing one `h'` when a node overruns the limit: its visit
`v` is the last one of `h`, and in `h'` it is cut off. -/
structure CutShort (h h' : History σ) (limit : ℕ) (error : Error) (before : List Visit)
    (v : Visit) : Prop where
  visits : h.visits = before ++ [v]
  in_time : ∀ u ∈ before, u.finish ≤ limit
  late : limit < v.finish
  cut : h'.visits = before ++ [v.cutAt limit error]
  ending : h'.ending = .failed (error.within v.node.id)
  finish : h'.finish = limit

end History

namespace Engine

variable {e : Engine σ} {w : Workflow} {g : Graph} {seeds outputs : Fields} {nodes : List Node}
  {now : ℕ} {state : σ} {order : List String} {h h' : History σ} {before : List Visit} {v : Visit}

/-! ## The clock -/

/-- A visit ends when its node has run. -/
lemma finish_eq_of_visit {n : Node} {inputs : Fields} {start : ℕ} {state' : σ}
    (hvisit : e.visit n inputs start state = (v, state')) :
    v.finish = start + Visit.elapsed [v] := by
  obtain ⟨-, -, hstart⟩ := of_visit hvisit
  have hle := start_le_finish hvisit
  rw [Visit.elapsed_cons, hstart]
  simp only [Visit.elapsed, List.map_nil, List.sum_nil]
  omega

/-- A visit ends when the nodes up to it have run, one after the other. -/
lemma Walked.finish_eq (hw : e.Walked g seeds nodes outputs now state h) {after : List Visit}
    (hvisits : h.visits = before ++ v :: after) :
    v.finish = now + Visit.elapsed (before ++ [v]) := by
  induction hw generalizing before with
  | completed => simp at hvisits
  | stopped => simp at hvisits
  | failed _ hvisit _ =>
    cases before with
    | nil =>
      obtain ⟨rfl, -⟩ := List.cons.inj hvisits
      exact finish_eq_of_visit hvisit
    | cons first before => simp at hvisits
  | next _ hvisit _ _ ih =>
    cases before with
    | nil =>
      obtain ⟨rfl, -⟩ := List.cons.inj hvisits
      exact finish_eq_of_visit hvisit
    | cons first before =>
      obtain ⟨rfl, htail⟩ := List.cons.inj hvisits
      obtain ⟨-, -, hstart⟩ := of_visit hvisit
      have hle := start_le_finish hvisit
      rw [ih htail, List.cons_append, Visit.elapsed_cons, hstart]
      omega

/-- The visits at whose end more time has passed than the limit are those that end after it. -/
lemma mem_overruns (hrun : e.run w seeds state = .started order h) {limit k : ℕ} :
    k ∈ Visit.overruns limit h.visits ↔ ∃ v, h.visits[k]? = some v ∧ limit < v.finish := by
  obtain ⟨-, hwalked⟩ := walked_of_run hrun
  have hfinish : ∀ v, h.visits[k]? = some v →
      v.finish = Visit.elapsed (h.visits.take (k + 1)) := by
    intro v hv
    obtain ⟨hk, hget⟩ := List.getElem?_eq_some_iff.mp hv
    have hsplit : h.visits = h.visits.take k ++ v :: h.visits.drop (k + 1) := by
      rw [← hget, List.cons_getElem_drop_succ, List.take_append_drop]
    rw [hwalked.finish_eq hsplit, List.take_add_one, hv, Option.toList_some, Nat.zero_add]
  constructor
  · rintro ⟨hk, hlate⟩
    have hv : h.visits[k]? = some h.visits[k] := List.getElem?_eq_getElem hk
    exact ⟨_, hv, by rw [hfinish _ hv]; exact hlate⟩
  · rintro ⟨v, hv, hlate⟩
    obtain ⟨hk, -⟩ := List.getElem?_eq_some_iff.mp hv
    exact ⟨hk, by rw [← hfinish v hv]; exact hlate⟩

/-! ## Two walks -/

/-- A walk whose limit has passed visits no node. -/
lemma visits_of_late (hlate : e.limit < now) :
    (e.walk g seeds nodes outputs now state).visits = [] := by
  cases nodes with
  | nil => rfl
  | cons n rest => rw [walk_of_late hlate]

/-- The walks of a cooperative and of an enforcing engine are the same, unless a node overruns the
limit. -/
lemma walk_enforcing (hnow : now ≤ e.limit) :
    let h := e.cooperative.walk g seeds nodes outputs now state
    let h' := e.enforcing.walk g seeds nodes outputs now state
    (h' = h ∧ h.finish ≤ e.limit ∧ ∀ v ∈ h.visits, v.finish ≤ e.limit) ∨
      ∃ before v, h.CutShort h' e.limit (e.timeout e.limit) before v := by
  induction nodes generalizing outputs now state with
  | nil => exact Or.inl ⟨rfl, hnow, by simp [walk]⟩
  | cons n rest ih =>
    cases hvisit : e.cooperative.visit n (g.gather n.id outputs seeds) now state with
    | mk v state' =>
      have htime : now ≤ e.cooperative.limit := hnow
      have htime' : now ≤ e.enforcing.limit := hnow
      obtain ⟨hnode, -, -⟩ := of_visit hvisit
      have hvisit' : e.enforcing.visit n (g.gather n.id outputs seeds) now state =
          (if e.limit < v.finish then v.cutAt e.limit (e.timeout e.limit) else v, state') := by
        rw [visit_eq htime' hvisit]
        simp [enforcing, timeout]
      by_cases hlate : e.limit < v.finish
      · right
        rw [if_pos hlate] at hvisit'
        rw [walk_of_error htime' hvisit' rfl]
        refine ⟨[], v, ?_, by simp, hlate, rfl, by rw [hnode], rfl⟩
        cases houtcome : v.outcome with
        | error error => rw [walk_of_error htime hvisit houtcome]; rfl
        | ok output =>
          have hlate' : e.cooperative.limit < v.finish := hlate
          rw [walk_of_ok htime hvisit houtcome]
          simp only [visits_of_late hlate', List.nil_append]
      · rw [if_neg hlate] at hvisit'
        have hend : v.finish ≤ e.limit := Nat.not_lt.mp hlate
        cases houtcome : v.outcome with
        | error error =>
          left
          rw [walk_of_error htime hvisit houtcome, walk_of_error htime' hvisit' houtcome]
          exact ⟨rfl, hend, by simpa using hend⟩
        | ok output =>
          rw [walk_of_ok htime hvisit houtcome, walk_of_ok htime' hvisit' houtcome]
          rcases @ih (Keyed.put outputs n.id output.data) v.finish state' hend with
            ⟨hsame, hfinish, hvisits⟩ | ⟨before, u, hcut⟩
          · left
            rw [hsame]
            exact ⟨rfl, hfinish, List.forall_mem_cons.mpr ⟨hend, hvisits⟩⟩
          · right
            refine ⟨v :: before, u, ?_, List.forall_mem_cons.mpr ⟨hend, hcut.in_time⟩, hcut.late,
              ?_, hcut.ending, hcut.finish⟩
            · simp only [hcut.visits, List.cons_append]
            · simp only [hcut.cut, List.cons_append]

end Engine

/-! ## Two runs -/

namespace Shape

/-- What becomes of a cooperative run whose `k`-th node ends after the limit, where `v` is the visit
to that node: it failed there if the node did, it was completed if this was the last node, and
otherwise it was stopped before the next one. -/
structure Overran (w : Workflow) (order : List String) (k : ℕ) (v : Visit) (visits : List Visit)
    (r : Report) : Prop where
  failed : ∀ error, v.outcome = .error error → Ended order k (k + 1) visits r ∧
    r.error = some (error.within v.node.id) ∧
    (error.node? = none → r.failedNode = some v.node.id)
  completed : v.Succeeded → k + 1 = order.length → Shape.completed.Fits w order visits r
  stopped : v.Succeeded → k + 1 < order.length → (Shape.stopped (k + 1)).Fits w order visits r

end Shape

namespace History.CutShort

variable {w : Workflow} {seeds : Fields} {order : List String} {h h' : History σ} {limit : ℕ}
  {elapsed bound : Float} {error : Error} {before : List Visit} {v : Visit} {id : String}

/-- The overrunning visit is the last one of the cooperative history. -/
lemma getElem?_visits (hcut : h.CutShort h' limit error before v) :
    h.visits[before.length]? = some v ∧ h.visits.length = before.length + 1 := by
  rw [hcut.visits]
  simp

/-- Both histories have the same visits before the overrunning one. -/
lemma take_visits (hcut : h.CutShort h' limit error before v) :
    h'.visits.take before.length = h.visits.take before.length := by
  rw [hcut.visits, hcut.cut, List.take_left, List.take_left]

/-- Both histories have the same values, but for that of the overrunning node. -/
lemma value?_outputs (hcut : h.CutShort h' limit error before v) (hid : id ≠ v.node.id) :
    Keyed.value? h'.outputs id = Keyed.value? h.outputs id := by
  have hlast : ∀ u : Visit, u.node.id = v.node.id →
      Keyed.value? (Keyed.ofEntries ((before ++ [u]).filterMap Visit.yield?)) id =
        Keyed.value? (Keyed.ofEntries (before.filterMap Visit.yield?)) id := by
    intro u hu
    rw [List.filterMap_append, Keyed.ofEntries, Keyed.putAll_append]
    refine Keyed.value?_putAll_of_not_mem fun hkey => ?_
    have hkey := (Visit.sublist_map_fst_yield? [u]).subset hkey
    exact hid ((List.mem_singleton.mp hkey).trans hu)
  rw [outputs, outputs, hcut.visits, hcut.cut, hlast v rfl, hlast (v.cutAt limit error) rfl]

/-- The enforcing run failed at the overrunning node, with a timeout. -/
lemma fits_enforcing {e : Engine σ} {state : σ}
    (hcut : h.CutShort h' limit (.timeout elapsed bound) before v) (hplan : w.plan = .ok order)
    (hwalked : e.Walked (Graph.ofWorkflow w) seeds (w.planned order) [] 0 state h') :
    (Shape.failed before.length).Fits w order h'.visits
        ((Run.started order h').report w seeds) ∧
      ((Run.started order h').report w seeds).status = .timedOut := by
  have hstatus := (Run.report_error w seeds order (Or.inl hcut.ending)).1
  refine ⟨?_, hstatus⟩
  obtain ⟨k, hshape⟩ := hwalked.failsAt hcut.ending
  obtain ⟨hended, -⟩ := hshape.ended hplan seeds
  have hlength := hended.length_visits hended.lt_length
  rw [hcut.cut, List.length_append, List.length_singleton] at hlength
  obtain rfl : before.length = k := Nat.succ.inj hlength
  refine hshape.fits hplan fun u hu error herror => ?_
  rw [hcut.cut] at hu
  rcases List.mem_append.mp hu with hu | hu
  · obtain ⟨output, hok⟩ := hshape.succeeded u (by rw [hcut.cut, List.take_left]; exact hu)
    rw [hok] at herror
    cases herror
  · obtain rfl := List.mem_singleton.mp hu
    cases herror
    rfl

/-- The cooperative run went by the outcome of the overrunning node. -/
lemma overran_cooperative {e : Engine σ} {state : σ}
    (hcut : h.CutShort h' limit error before v) (hplan : w.plan = .ok order)
    (hwalked : e.Walked (Graph.ofWorkflow w) seeds (w.planned order) [] 0 state h) :
    Shape.Overran w order before.length v h.visits ((Run.started order h).report w seeds) := by
  obtain ⟨hv, hcount⟩ := hcut.getElem?_visits
  have hmem : v ∈ h.visits := List.mem_of_getElem? hv
  rcases hwalked.shape with hshape | ⟨k, hshape⟩ | ⟨k, hshape⟩
  · obtain ⟨output, hok⟩ := hshape.succeeded v hmem
    have hfits : Shape.completed.Fits w order h.visits ((Run.started order h).report w seeds) :=
      hshape.fits hplan fun v hv => hwalked.handled hv
    have hlength := congrArg List.length hfits.started
    rw [List.length_map, hcount] at hlength
    refine ⟨fun error' herror => ?_, fun _ _ => hfits, fun _ hlt => absurd hlength hlt.ne⟩
    rw [hok] at herror
    cases herror
  · obtain ⟨hended, u, error', hu, -, hfailed, herror⟩ := hshape.ended hplan seeds
    have hlength := hended.length_visits hended.lt_length
    obtain rfl : before.length = k := Nat.succ.inj (hcount.symm.trans hlength)
    obtain rfl : v = u := Option.some.inj (hv.symm.trans hu)
    have hnot : ¬ v.Succeeded := by
      rintro ⟨output, hok⟩
      rw [hfailed] at hok
      cases hok
    refine ⟨fun error'' heq => ?_, fun hok => absurd hok hnot, fun hok => absurd hok hnot⟩
    obtain rfl := Except.error.inj (hfailed.symm.trans heq)
    refine ⟨hended, herror, fun hnone => ?_⟩
    rw [Report.failedNode, herror]
    exact Error.node?_within hnone _
  · obtain ⟨output, hok⟩ := hshape.succeeded v hmem
    have hfits : (Shape.stopped k).Fits w order h.visits ((Run.started order h).report w seeds) :=
      hshape.fits hplan
    have hlength := hfits.1.length_visits hfits.1.lt_length.le
    obtain rfl : before.length + 1 = k := hcount.symm.trans hlength
    refine ⟨fun error' herror => ?_, fun _ hlast => ?_, fun _ _ => hfits⟩
    · rw [hok] at herror
      cases herror
    · exact absurd hlast hfits.1.lt_length.ne

end History.CutShort

namespace Engine

variable {e : Engine σ} {w : Workflow} {seeds : Fields} {state : σ} {order : List String}
  {h h' : History σ}

/-- The `k`-th visit is one to the `k`-th node of the order. -/
lemma getElem?_order (hrun : e.run w seeds state = .started order h) {k : ℕ} {v : Visit}
    (hv : h.visits[k]? = some v) : order[k]? = some v.node.id := by
  obtain ⟨rest, hrest⟩ := prefix_of_run hrun
  obtain ⟨hk, -⟩ := List.getElem?_eq_some_iff.mp hv
  rw [← hrest, List.getElem?_append_left (by rwa [List.length_map]), List.getElem?_map, hv]
  rfl

/-- The runs of a cooperative and of an enforcing engine are the same, unless a node overruns the
limit. -/
lemma run_enforcing (hrun : e.cooperative.run w seeds state = .started order h)
    (hrun' : e.enforcing.run w seeds state = .started order h') :
    (h' = h ∧ h.finish ≤ e.limit ∧ ∀ v ∈ h.visits, v.finish ≤ e.limit) ∨
      ∃ before v, h.CutShort h' e.limit (e.timeout e.limit) before v := by
  obtain ⟨hplan, -⟩ := walked_of_run hrun
  rw [run, hplan] at hrun hrun'
  obtain rfl := (Run.started.inj hrun).2
  obtain rfl := (Run.started.inj hrun').2
  exact e.walk_enforcing (Nat.zero_le _)

/-- A workflow that passes the check is run by a cooperative and by an enforcing engine. Both follow
the same order. The cooperative run leaves every node its outcome and its time; the enforcing run
never takes longer than the limit. If no node ends when more time than the limit has passed, the
runs are the same. Otherwise let the `k`-th be the first that does, and `v` the visit to it in the
cooperative run. Up to this node both runs do the same. The enforcing one fails at it with a
timeout; the cooperative one goes by its outcome. -/
theorem deadline_modes (e : Engine σ) (w : Workflow) (hcheck : w.check = .ok ()) (seeds : Fields)
    (state : σ) :
    let cooperative := e.cooperative.run w seeds state
    let enforcing := e.enforcing.run w seeds state
    let r := cooperative.report w seeds
    let r' := enforcing.report w seeds
    (∀ v ∈ cooperative.visits, ∀ handler, e.handler? v.node = some handler →
      ∃ state, v.outcome = (handler v.node.config v.inputs state).value ∧
        v.finish = v.start + (handler v.node.config v.inputs state).ticks) ∧
    ∃ order, w.order = .sorted order ∧ r.order = order ∧ r'.order = order ∧ r'.ticks ≤ e.limit ∧
      (Visit.overruns e.limit cooperative.visits = ∅ → enforcing = cooperative) ∧
      ∀ k, IsLeast (Visit.overruns e.limit cooperative.visits) k →
        enforcing.visits.take k = cooperative.visits.take k ∧
        (∀ id ∈ order.take k, Keyed.value? r'.allOutputs id = Keyed.value? r.allOutputs id) ∧
        (Shape.failed k).Fits w order enforcing.visits r' ∧ r'.status = .timedOut ∧
        ∃ v, cooperative.visits[k]? = some v ∧ order[k]? = some v.node.id ∧
          Shape.Overran w order k v cooperative.visits r := by
  intro cooperative enforcing r r'
  obtain ⟨order, hplan⟩ := Workflow.check_eq_ok_iff.mp hcheck
  obtain ⟨-, -, -, horder⟩ := Workflow.plan_eq_ok_iff.mp hplan
  obtain ⟨h, hrun⟩ := e.cooperative.exists_run_of_plan hplan seeds state
  obtain ⟨h', hrun'⟩ := e.enforcing.exists_run_of_plan hplan seeds state
  obtain ⟨-, hwalked⟩ := walked_of_run hrun
  obtain ⟨-, hwalked'⟩ := walked_of_run hrun'
  obtain ⟨hall, -, hnoted⟩ := Run.report_started w seeds order h
  obtain ⟨hall', -, hnoted'⟩ := Run.report_started w seeds order h'
  have hticks' := Run.report_ticks w seeds order h'
  simp only [r, r', cooperative, enforcing, hrun, hrun', Run.visits]
  refine ⟨fun v hv handler hhandler => ?_, order, horder, hnoted, hnoted', ?_⟩
  · obtain ⟨state, state', hvisit⟩ := hwalked.visit_eq hv
    exact ⟨state, of_visit_cooperative hvisit hhandler⟩
  rw [hticks', hall, hall']
  rcases run_enforcing hrun hrun' with ⟨rfl, hfinish, hvisits⟩ | ⟨before, v, hcut⟩
  · refine ⟨hfinish, fun _ => rfl, fun k hk => ?_⟩
    obtain ⟨v, hv, hlate⟩ := (mem_overruns hrun).mp hk.1
    exact absurd hlate (Nat.not_lt.mpr (hvisits v (List.mem_of_getElem? hv)))
  · obtain ⟨hv, hcount⟩ := hcut.getElem?_visits
    have hover : before.length ∈ Visit.overruns e.limit h.visits :=
      (mem_overruns hrun).mpr ⟨v, hv, hcut.late⟩
    refine ⟨hcut.finish.le, fun hnone => ?_, fun k hk => ?_⟩
    · rw [hnone] at hover
      cases hover
    -- the visits before the overrunning one end in time, so that it is the first
    have hfirst : before.length = k := by
      refine le_antisymm (Nat.not_lt.mp fun hlt => ?_) (hk.2 hover)
      obtain ⟨u, hu, hlate⟩ := (mem_overruns hrun).mp hk.1
      rw [hcut.visits, List.getElem?_append_left hlt] at hu
      exact absurd hlate (Nat.not_lt.mpr (hcut.in_time u (List.mem_of_getElem? hu)))
    subst hfirst
    obtain ⟨hfits, hstatus⟩ := hcut.fits_enforcing hplan hwalked'
    have hid : order[before.length]? = some v.node.id := getElem?_order hrun hv
    refine ⟨hcut.take_visits, fun id hmem => hcut.value?_outputs ?_, hfits, hstatus, v, hv, hid,
      hcut.overran_cooperative hplan hwalked⟩
    rintro rfl
    have hdrop : v.node.id ∈ order.drop before.length :=
      List.mem_of_getElem? (i := 0) (by rw [List.getElem?_drop, Nat.add_zero, hid])
    exact List.disjoint_take_drop (Workflow.nodup_of_plan hplan) le_rfl hmem hdrop

/-- The first node ends just at the limit; the second one overruns it and fails. -/
theorem deadline_modes_fails_late :
    let wait : Handler ℕ := fun _ _ calls => ⟨.ok (.single .null), 10, calls + 1⟩
    let refuse : Handler ℕ := fun _ _ calls => ⟨.error (.node "refused"), 1, calls + 1⟩
    let e : Engine ℕ := ⟨[("refuse", ⟨"", refuse⟩), ("wait", ⟨"", wait⟩)], [],
      fun call calls => .pure (.error (.capabilityUnavailable call.capability)) calls, 10, false⟩
    let w : Workflow := ⟨none, none, [⟨"a", "wait", .null⟩, ⟨"b", "refuse", .null⟩,
      ⟨"c", "wait", .null⟩], []⟩
    let cooperative := e.cooperative.run w [] 0
    let enforcing := e.enforcing.run w [] 0
    w.check = .ok () ∧ IsLeast (Visit.overruns 10 cooperative.visits) 1 ∧
      (enforcing.report w []).status = .timedOut ∧ (enforcing.report w []).ticks ≤ 10 ∧
      (∃ order, (Shape.failed 1).Fits w order enforcing.visits (enforcing.report w [])) ∧
      (cooperative.report w []).status = .failed := by
  intro wait refuse e w cooperative enforcing
  have hcheck : w.check = .ok () := by rfl
  have hfirst : IsLeast (Visit.overruns 10 cooperative.visits) 1 := by
    refine ⟨⟨by decide, by decide⟩, fun k hk => ?_⟩
    cases k with
    | zero => exact absurd hk.2 (by decide)
    | succ k => exact Nat.succ_le_succ (Nat.zero_le k)
  obtain ⟨-, order, -, -, -, hticks, -, hover⟩ := deadline_modes e w hcheck [] 0
  obtain ⟨-, -, hfits, hstatus, -⟩ := hover 1 hfirst
  exact ⟨hcheck, hfirst, hstatus, hticks, ⟨order, hfits⟩, by decide⟩

end Engine

end Dataflow
