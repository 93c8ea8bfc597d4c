import Dataflow.Proofs.Run.Outputs

/-!
# Runs and their limit

A cooperative engine looks at its limit between nodes only; an enforcing one cuts nodes off at it.
The visits of any engine are those of the cooperative one, but for the visits that are cut off
(`Engine.visit_eq`). So a limit can be chosen so long that no node is cut off and no run is stopped
(`Engine.exists_limit`), and a run for which a longer limit would change nothing
(`Engine.Unhurried`) is one in which every node has the outcome of its handler
(`Engine.Unhurried.outcome_eq`).
-/

namespace Dataflow

variable {σ : Type}

/-- The visit, ended at a time with an error. -/
def Visit.cutAt (v : Visit) (time : ℕ) (error : Error) : Visit :=
  { v with finish := time, outcome := .error error }

namespace Engine

/-- The engine that lets a node run on when the limit passes. -/
def cooperative (e : Engine σ) : Engine σ := { e with enforced := false }

/-- The engine that cuts a node off when the limit passes. -/
def enforcing (e : Engine σ) : Engine σ := { e with enforced := true }

/-- The engine with another limit. -/
def limited (e : Engine σ) (limit : ℕ) : Engine σ := { e with limit := limit }

variable {e : Engine σ} {w : Workflow} {g : Graph} {seeds outputs : Fields} {nodes : List Node}
  {now start : ℕ} {state state' : σ} {n : Node} {inputs : Fields} {v : Visit}
  {order : List String} {h : History σ}

/-! ## Visits -/

/-- A visit does not end before it starts. -/
lemma start_le_finish (hvisit : e.visit n inputs start state = (v, state')) :
    start ≤ v.finish := by
  rcases visit_cases hvisit with ⟨-, rfl, -⟩ | ⟨handler, effect, -, -, rfl, -⟩
  · exact le_rfl
  · exact Nat.le_add_right start effect.ticks

/-- A cooperative engine cuts nothing off. -/
lemma cutOff_cooperative (e : Engine σ) (start : ℕ) (effect : Effect σ Outcome) :
    e.cooperative.cutOff start effect = effect := by
  rw [cutOff]
  exact if_neg (by simp [cooperative])

/-- The visits of an engine are those of the cooperative one, unless it cuts them off. -/
lemma visit_eq (hstart : start ≤ e.limit)
    (hcooperative : e.cooperative.visit n inputs start state = (v, state')) :
    e.visit n inputs start state =
      (if e.enforced = true ∧ e.limit < v.finish then v.cutAt e.limit (e.timeout e.limit) else v,
        state') := by
  rcases visit_cases hcooperative with ⟨hnone, rfl, rfl⟩ | ⟨handler, effect, hsome, heq, rfl, rfl⟩
  · have hnone : e.handler? n = none := hnone
    rw [visit, hnone]
    exact congrArg (·, state') (if_neg fun h => absurd h.2 (Nat.not_lt.mpr hstart)).symm
  · have hsome : e.handler? n = some handler := hsome
    rw [cutOff_cooperative] at heq
    subst heq
    rw [visit, hsome]
    simp only [cutOff]
    by_cases hcut : e.enforced = true ∧ e.limit < start + (handler n.config inputs state).ticks
    · rw [if_pos hcut, if_pos (by simpa using hcut)]
      have hfinish : start + (e.limit - start) = e.limit := Nat.add_sub_cancel' hstart
      simp only [Visit.cutAt, hfinish]
    · rw [if_neg hcut, if_neg (by simpa using hcut)]

/-- A visit that ends before the limit is that of the cooperative engine, whatever its limit. -/
lemma visit_limited {limit : ℕ} (hstart : start ≤ limit)
    (hcooperative : e.cooperative.visit n inputs start state = (v, state'))
    (hfinish : v.finish ≤ limit) :
    (e.limited limit).visit n inputs start state = (v, state') := by
  have hsame : (e.limited limit).cooperative.visit n inputs start state = (v, state') := by
    rw [← hcooperative]
    unfold visit
    simp only [cutOff_cooperative]
    rfl
  rw [visit_eq hstart hsame, if_neg fun hcut => absurd hcut.2 (Nat.not_lt.mpr hfinish)]

/-- A cooperative engine leaves a node the outcome of its handler and the time it takes. -/
lemma of_visit_cooperative {handler : Handler σ}
    (hvisit : e.cooperative.visit n inputs start state = (v, state'))
    (hhandler : e.handler? n = some handler) :
    v.outcome = (handler n.config inputs state).value ∧
      v.finish = v.start + (handler n.config inputs state).ticks := by
  rcases visit_cases hvisit with ⟨hnone, -, -⟩ | ⟨handler', effect, hsome, heq, rfl, -⟩
  · have hnone : e.handler? n = none := hnone
    rw [hhandler] at hnone
    cases hnone
  · have hsome : e.handler? n = some handler' := hsome
    obtain rfl : handler = handler' := Option.some.inj (hhandler.symm.trans hsome)
    rw [cutOff_cooperative] at heq
    subst heq
    exact ⟨rfl, rfl⟩

/-- The handler of the node takes no time. -/
def Instant (e : Engine σ) (n : Node) : Prop :=
  ∀ handler, e.handler? n = some handler →
    ∀ inputs state, (handler n.config inputs state).ticks = 0

/-- A visit to a node that takes no time ends when it starts. -/
lemma Instant.finish_eq (hn : e.Instant n)
    (hcooperative : e.cooperative.visit n inputs start state = (v, state')) : v.finish = start := by
  rcases visit_cases hcooperative with ⟨-, rfl, -⟩ | ⟨handler, effect, hsome, heq, rfl, -⟩
  · rfl
  · rw [cutOff_cooperative] at heq
    subst heq
    exact congrArg (start + ·) (hn handler hsome inputs state)

/-- A node whose visit ends before the limit has the outcome of its handler. -/
lemma outcome_eq_of_finish_lt {handler : Handler σ}
    (hvisit : e.visit n inputs start state = (v, state')) (hhandler : e.handler? n = some handler)
    (hfinish : v.finish < e.limit) : v.outcome = (handler n.config inputs state).value := by
  rcases visit_cases hvisit with ⟨hnone, -, -⟩ | ⟨handler', effect, hsome, heq, rfl, -⟩
  · rw [hhandler] at hnone
    cases hnone
  · obtain rfl : handler = handler' := Option.some.inj (hhandler.symm.trans hsome)
    rw [cutOff] at heq
    split at heq
    · subst heq
      have hcut : start + (e.limit - start) < e.limit := hfinish
      omega
    · rw [heq]

/-! ## Walks -/

/-- A walk is only stopped when the limit has passed. -/
lemma Walked.limit_lt_finish (hw : e.Walked g seeds nodes outputs now state h) {before : String}
    {error : Error} (hending : h.ending = .stopped before error) : e.limit < h.finish := by
  induction hw with
  | completed => cases hending
  | stopped hlate => exact hlate
  | failed _ _ _ => cases hending
  | next _ _ _ _ ih => exact ih hending

/-- Some limit is so long that a walk, and every visit in it, ends before it. -/
lemma exists_limit (e : Engine σ) (g : Graph) (seeds : Fields) (nodes : List Node)
    (outputs : Fields) (now : ℕ) (state : σ) :
    ∃ least, ∀ limit, least ≤ limit →
      let h := (e.limited limit).walk g seeds nodes outputs now state
      h.finish < limit ∧ ∀ v ∈ h.visits, v.finish < limit := by
  induction nodes generalizing outputs now state with
  | nil => exact ⟨now + 1, fun limit hlimit => ⟨hlimit, by simp [walk]⟩⟩
  | cons n rest ih =>
    cases hvisit : e.cooperative.visit n (g.gather n.id outputs seeds) now state with
    | mk v state' =>
      have hstart : now ≤ v.finish := start_le_finish hvisit
      have huncut : ∀ limit, v.finish + 1 ≤ limit →
          (e.limited limit).visit n (g.gather n.id outputs seeds) now state = (v, state') :=
        fun limit hlimit => visit_limited (by omega) hvisit (by omega)
      cases houtcome : v.outcome with
      | error error =>
        refine ⟨v.finish + 1, fun limit hlimit => ?_⟩
        have htime : now ≤ (e.limited limit).limit := hstart.trans (by exact Nat.le_of_lt hlimit)
        rw [walk_of_error htime (huncut limit hlimit) houtcome]
        exact ⟨hlimit, by simpa using hlimit⟩
      | ok output =>
        obtain ⟨least, hleast⟩ := ih (Keyed.put outputs n.id output.data) v.finish state'
        refine ⟨max least (v.finish + 1), fun limit hlimit => ?_⟩
        obtain ⟨hlater, hlimit⟩ := max_le_iff.mp hlimit
        obtain ⟨hfinish, hvisits⟩ := hleast limit hlater
        have htime : now ≤ (e.limited limit).limit := hstart.trans (by exact Nat.le_of_lt hlimit)
        rw [walk_of_ok htime (huncut limit hlimit) houtcome]
        exact ⟨hfinish, List.forall_mem_cons.mpr ⟨hlimit, hvisits⟩⟩

/-- A walk is the same under a longer limit if every visit in it ends before the limit or is one to
a node that takes no time. -/
lemma walk_limited {limit : ℕ} (hlimit : e.limit ≤ limit) (hnow : now ≤ e.limit)
    (hvisits : ∀ v ∈ (e.walk g seeds nodes outputs now state).visits,
      v.finish < e.limit ∨ e.Instant v.node) :
    (e.limited limit).walk g seeds nodes outputs now state =
      e.walk g seeds nodes outputs now state := by
  induction nodes generalizing outputs now state with
  | nil => rfl
  | cons n rest ih =>
    cases hcooperative : e.cooperative.visit n (g.gather n.id outputs seeds) now state with
    | mk v state' =>
      have hvisit := visit_eq hnow hcooperative
      have htime : now ≤ (e.limited limit).limit := hnow.trans hlimit
      obtain ⟨hnode, -, -⟩ := of_visit hcooperative
      have hend : v.finish < e.limit ∨ e.Instant v.node → v.finish ≤ e.limit := by
        rintro (hbefore | hinstant)
        · exact hbefore.le
        · exact (Instant.finish_eq (hnode ▸ hinstant) hcooperative).trans_le hnow
      by_cases hcut : e.enforced = true ∧ e.limit < v.finish
      · -- the visit that is cut off ends at the limit, and its node takes time
        rw [if_pos hcut] at hvisit
        rw [walk_of_error hnow hvisit rfl] at hvisits
        have hinstant : e.Instant v.node :=
          (hvisits _ List.mem_cons_self).resolve_left (lt_irrefl e.limit)
        exact absurd (hend (.inr hinstant)) (Nat.not_le.mpr hcut.2)
      · rw [if_neg hcut] at hvisit
        cases houtcome : v.outcome with
        | error error =>
          rw [walk_of_error hnow hvisit houtcome] at hvisits
          have hfinish := hend (hvisits v List.mem_cons_self)
          have hvisit' := visit_limited htime hcooperative (hfinish.trans hlimit)
          rw [walk_of_error hnow hvisit houtcome, walk_of_error htime hvisit' houtcome]
        | ok output =>
          rw [walk_of_ok hnow hvisit houtcome] at hvisits
          obtain ⟨hfirst, hrest⟩ := List.forall_mem_cons.mp hvisits
          have hvisit' := visit_limited htime hcooperative ((hend hfirst).trans hlimit)
          rw [walk_of_ok hnow hvisit houtcome, walk_of_ok htime hvisit' houtcome,
            ih (hend hfirst) hrest]

/-! ## Runs -/

/-- The limit is never reached in a run: under a longer one the run is the same. -/
def Unhurried (e : Engine σ) (w : Workflow) (seeds : Fields) (state : σ) : Prop :=
  ∀ limit, e.limit ≤ limit → (e.limited limit).run w seeds state = e.run w seeds state

/-- A run is unhurried if every visit in it ends before the limit or is one to a node that takes no
time. -/
lemma unhurried_of_visits
    (hvisits : ∀ v ∈ (e.run w seeds state).visits, v.finish < e.limit ∨ e.Instant v.node) :
    e.Unhurried w seeds state := by
  intro limit hlimit
  rw [run] at hvisits ⊢
  rw [run]
  cases hplan : w.plan with
  | error fault => rfl
  | ok order =>
    rw [hplan] at hvisits
    exact congrArg (Run.started order) (walk_limited hlimit (Nat.zero_le _) hvisits)

/-- A run is unhurried if all its visits end before the limit. -/
lemma unhurried_of_finish_lt
    (hfinish : ∀ v ∈ (e.run w seeds state).visits, v.finish < e.limit) :
    e.Unhurried w seeds state :=
  unhurried_of_visits fun v hv => .inl (hfinish v hv)

/-- A run is unhurried if no node of the workflow takes any time. -/
lemma unhurried_of_instant (hinstant : ∀ n ∈ w.nodes, e.Instant n) :
    e.Unhurried w seeds state := by
  refine unhurried_of_visits fun v hv => .inr (hinstant v.node ?_)
  cases hrun : e.run w seeds state with
  | rejected fault state =>
    rw [hrun] at hv
    cases hv
  | started order h =>
    rw [hrun] at hv
    exact mem_nodes_of_visit hrun hv

/-- An unhurried run is not stopped, and every node in it has the outcome of its handler. -/
lemma Unhurried.outcome_eq (hunhurried : e.Unhurried w seeds state)
    (hrun : e.run w seeds state = .started order h) :
    (∀ v ∈ h.visits, ∀ handler, e.handler? v.node = some handler →
      ∃ state, v.outcome = (handler v.node.config v.inputs state).value) ∧
    ∀ before error, h.ending ≠ .stopped before error := by
  obtain ⟨least, hleast⟩ :=
    e.exists_limit (Graph.ofWorkflow w) seeds (w.planned order) [] 0 state
  have hlong := hunhurried (max e.limit least) (le_max_left _ _)
  rw [hrun] at hlong
  obtain ⟨hplan, hwalked⟩ := walked_of_run hlong
  have hwalk : h = (e.limited (max e.limit least)).walk (Graph.ofWorkflow w) seeds
      (w.planned order) [] 0 state := by
    rw [run, hplan] at hlong
    exact (Run.started.inj hlong).2.symm
  obtain ⟨hfinish, hvisits⟩ := hleast (max e.limit least) (le_max_right _ _)
  rw [← hwalk] at hfinish hvisits
  constructor
  · intro v hv handler hhandler
    obtain ⟨state, state', hvisit⟩ := hwalked.visit_eq hv
    exact ⟨state, outcome_eq_of_finish_lt hvisit hhandler (hvisits v hv)⟩
  · intro before error hending
    exact absurd (hwalked.limit_lt_finish hending) (Nat.not_lt.mpr hfinish.le)

end Engine

end Dataflow
