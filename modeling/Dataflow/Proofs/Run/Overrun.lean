import Dataflow.Proofs.Decimal.Value
import Dataflow.Proofs.Run.Limit

/-!
# How far a run can get past its limit

A cooperative engine looks at its limit before each node and at no other time. So a run ends no
later than the longest time that a node can take after the limit (`Engine.Walked.finish_le`). Of the
built-in node types other than `http` only delay nodes take time, and a pause is held below thirty
seconds, whatever double it is asked for by (`Kinds.ticks_runDelay_le`).
-/

namespace Dataflow

variable {σ : Type}

/-! ## Pauses -/

namespace Kinds

/-- No pause is longer than thirty seconds. -/
lemma nanoseconds_clampDelay_le (seconds : Float) :
    Clock.nanoseconds (clampDelay seconds) ≤ 30 * 10 ^ 9 := by
  have hlongest : longestDelay.isFinite = true := by decide +kernel
  have hthirty : Decimal.value longestDelay = 30 := by
    have hunpack : longestDelay.toModel.unpack =
        .finite .positive (30 * 2 ^ 48) (-48) (by decide) := rfl
    rw [Decimal.value, hunpack, Decimal.unpackedValue_positive]
    norm_num
  unfold clampDelay
  split
  · decide +kernel
  · rename_i hpositive
    split
    · decide +kernel
    · -- a pause that is taken as it is asked for is a positive number, and at most thirty
      rename_i hshort
      simp only [Bool.or_eq_true, Bool.not_eq_true', decide_eq_true_eq, not_or,
        Bool.not_eq_false] at hpositive
      obtain ⟨hfinite, hpositive⟩ := hpositive
      have hzero : (0 : Float).isFinite = true := by decide +kernel
      rw [Decimal.le_iff_value hfinite hzero, not_le] at hpositive
      rw [Decimal.lt_iff_value hlongest hfinite, hthirty, not_lt] at hshort
      refine Decimal.Dyadic.scaledRound_le ?_ 9
      rw [Decimal.Dyadic.ofFloat_eq_abs_value hfinite, abs_of_pos hpositive]
      exact_mod_cast hshort

/-- A delay node takes no longer than thirty seconds, whatever its configuration. -/
lemma ticks_runDelay_le (config : Json) (inputs : Fields) (state : σ) :
    (runDelay config inputs state).ticks ≤ Clock.ofSeconds 30 := by
  unfold runDelay
  split
  · exact Nat.zero_le _
  · rename_i requested _
    have hpause := nanoseconds_clampDelay_le (requested.getD defaultDelay)
    have hticks : Clock.ticksToCover (Clock.nanoseconds (clampDelay (requested.getD defaultDelay))) =
      (Clock.nanoseconds (clampDelay (requested.getD defaultDelay)) + 999999) / 1000000 := rfl
    simp only [hticks, Clock.ofSeconds]
    omega

end Kinds

namespace Engine

variable {e : Engine σ} {w : Workflow} {g : Graph} {seeds outputs : Fields} {nodes : List Node}
  {now pause : ℕ} {state : σ} {h : History σ} {n : Node}

/-! ## Nodes that take a bounded time -/

/-- The handler of the node takes no more than the given time. -/
def TakesAtMost (e : Engine σ) (pause : ℕ) (n : Node) : Prop :=
  ∀ handler, e.handler? n = some handler →
    ∀ inputs state, (handler n.config inputs state).ticks ≤ pause

/-- Of the built-in node types, those other than `http` take no more than thirty seconds. -/
lemma takesAtMost_of_builtin {http : Handler σ} (hregistry : e.registry = .builtin http)
    (hbuiltin : n.kind.isBuiltin = true) (hhttp : n.kind ≠ .http) :
    e.TakesAtMost (Clock.ofSeconds 30) n := by
  intro handler hhandler
  rcases of_handler? hhandler with ⟨t, ht, rfl⟩ | ⟨name, hname, -⟩
  · rw [hregistry] at ht
    have hvalue : Keyed.value? (Registry.builtin http) n.type = some t :=
      (Keyed.sorted_ofEntries _).mem_iff.mp ht
    rw [Registry.builtin, Keyed.value?_ofEntries (by simp)] at hvalue
    have hentry := Keyed.mem_of_value? hvalue
    simp only [List.mem_cons, List.not_mem_nil, or_false, Prod.mk.injEq] at hentry
    rcases hentry with ⟨-, rfl⟩ | ⟨-, rfl⟩ | ⟨-, rfl⟩ | ⟨-, rfl⟩ | ⟨-, rfl⟩ | ⟨-, rfl⟩ | ⟨-, rfl⟩ |
      ⟨-, rfl⟩ | ⟨htype, rfl⟩ | ⟨-, rfl⟩
    case inr.inr.inr.inr.inr.inr.inr.inl => exact Kinds.ticks_runDelay_le n.config
    case inr.inr.inr.inr.inr.inr.inr.inr.inl =>
      exact absurd (by rw [Node.kind, htype]; rfl) hhttp
    all_goals exact fun _ _ => Nat.zero_le _
  · rw [hname] at hbuiltin
    cases hbuiltin

/-- A visit to such a node ends in that time if nothing is cut off. -/
lemma TakesAtMost.finish_le (hn : e.TakesAtMost pause n) {inputs : Fields} {state' : σ} {v : Visit}
    (hvisit : e.cooperative.visit n inputs now state = (v, state')) : v.finish ≤ now + pause := by
  rcases visit_cases hvisit with ⟨-, rfl, -⟩ | ⟨handler, effect, hsome, heq, rfl, -⟩
  · exact Nat.le_add_right now pause
  · rw [cutOff_cooperative] at heq
    subst heq
    exact Nat.add_le_add_left (hn handler hsome inputs state) now

/-- A cooperative walk of such nodes ends no later than that time after its limit: its last node is
started before the limit has passed. -/
lemma Walked.finish_le (hw : e.cooperative.Walked g seeds nodes outputs now state h)
    (hnodes : ∀ n ∈ nodes, e.TakesAtMost pause n) (hnow : now ≤ e.limit + pause) :
    h.finish ≤ e.limit + pause := by
  have hstarted : ∀ {now : ℕ}, now ≤ e.cooperative.limit → now + pause ≤ e.limit + pause :=
    fun htime => Nat.add_le_add_right htime pause
  induction hw with
  | completed => exact hnow
  | stopped _ => exact hnow
  | failed htime hvisit _ =>
    obtain ⟨hn, -⟩ := List.forall_mem_cons.mp hnodes
    exact (hn.finish_le hvisit).trans (hstarted htime)
  | next htime hvisit _ _ ih =>
    obtain ⟨hn, hrest⟩ := List.forall_mem_cons.mp hnodes
    exact ih hrest ((hn.finish_le hvisit).trans (hstarted htime))

/-! ## The main result -/

/-- If all node types are built in and none is `http`, a run that cuts no node off ends no later
than thirty seconds after its limit, however long its delay nodes are told to pause. -/
theorem overrun_bounded {http : Handler σ} (hregistry : e.registry = .builtin http)
    (hnodes : ∀ n ∈ w.nodes, n.kind.isBuiltin = true ∧ n.kind ≠ .http) (seeds : Fields)
    (state : σ) :
    ((e.cooperative.run w seeds state).report w seeds).ticks ≤ e.limit + Clock.ofSeconds 30 := by
  cases hrun : e.cooperative.run w seeds state with
  | rejected fault state => exact Nat.zero_le _
  | started order h =>
    obtain ⟨hplan, hwalked⟩ := walked_of_run hrun
    rw [Run.report_ticks]
    refine hwalked.finish_le (fun n hn => ?_) (Nat.zero_le _)
    obtain ⟨hbuiltin, hhttp⟩ := hnodes n ((Workflow.mem_planned hplan).mp hn)
    exact takesAtMost_of_builtin hregistry hbuiltin hhttp

/-- The second of two delay nodes is started when no time is left, and is told to pause for longer
than it may; the bound is reached. -/
theorem overrun_bounded_reached :
    let e : Engine Unit := ⟨.builtin fun _ _ state => .pure (.error (.unsupported "")) state, [],
      fun call state => .pure (.error (.capabilityUnavailable call.capability)) state, 250, true⟩
    let w : Workflow := ⟨none, none,
      [⟨"a", "delay", .object [("seconds", .string " 0.25 ")]⟩,
        ⟨"b", "delay", .object [("seconds", .number (.whole 90 (by decide)))]⟩,
        ⟨"c", "delay", .object [("seconds", .string "-inf")]⟩], []⟩
    (∀ n ∈ w.nodes, n.kind.isBuiltin = true ∧ n.kind ≠ .http) ∧
      ((e.cooperative.run w [] ()).report w []).ticks = 250 + 30000 ∧
      ((e.cooperative.run w [] ()).report w []).ticks ≤ 250 + 30000 := by
  intro e w
  have hregistry : e.registry = .builtin fun _ _ state => .pure (.error (.unsupported "")) state :=
    rfl
  have hnodes : ∀ n ∈ w.nodes, n.kind.isBuiltin = true ∧ n.kind ≠ .http := by
    simp only [w, List.forall_mem_cons]
    exact ⟨by decide, by decide, by decide, List.forall_mem_nil _⟩
  exact ⟨hnodes, by decide +kernel, overrun_bounded hregistry hnodes [] ()⟩

end Engine

end Dataflow
