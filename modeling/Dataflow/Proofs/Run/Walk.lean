import Dataflow.Run.Registry
import Dataflow.Run.Report
import Dataflow.Proofs.Keyed
import Dataflow.Proofs.Workflow.Edges

/-!
# Walks

`Engine.walk` runs nodes one after the other. What it can do at each node is said once, by the
relation `Engine.Walked`; everything else about runs follows from it by induction:

* every visit in the history is one that the engine makes (`Walked.visit_eq`);
* the inputs of a visit are gathered from the values of the visits before it (`Walked.inputs_eq`);
* the visits are those of a first part of the nodes, and the ending tells which
  (`Walked.exists_ends`, `Walked.shape`).
-/

namespace Dataflow

variable {σ : Type}

/-- The node was run to its end. -/
def Visit.Succeeded (v : Visit) : Prop := ∃ output, v.outcome = .ok output

namespace History

/-- All nodes were run to their end. -/
structure Completes (h : History σ) (nodes : List Node) : Prop where
  visited : h.visits.map Visit.node = nodes
  succeeded : ∀ v ∈ h.visits, v.Succeeded
  ending : h.ending = .completed

/-- The first `k` nodes were run to their end, the next one failed, and none was started after
it. -/
structure FailsAt (h : History σ) (nodes : List Node) (k : ℕ) : Prop where
  visited : h.visits.map Visit.node = nodes.take (k + 1)
  succeeded : ∀ v ∈ h.visits.take k, v.Succeeded
  failed : ∃ v error, h.visits[k]? = some v ∧ v.outcome = .error error ∧
    h.ending = .failed (error.within v.node.id)

/-- The first `k` nodes were run to their end, and the limit had passed before the next one. -/
structure StopsBefore (h : History σ) (nodes : List Node) (k : ℕ) : Prop where
  visited : h.visits.map Visit.node = nodes.take k
  succeeded : ∀ v ∈ h.visits, v.Succeeded
  stopped : ∃ n elapsed limit, nodes[k]? = some n ∧
    h.ending = .stopped n.id (.timeout elapsed limit)

/-- How a history ended in which the visits `done` were run to their end and the nodes of the given
list were left. -/
inductive Ends (h : History σ) (done : List Visit) : List Node → Prop
  /-- No node was left. -/
  | completed (visits : h.visits = done) (ending : h.ending = .completed) : Ends h done []
  /-- The first node that was left failed. -/
  | failed {v : Visit} {rest : List Node} {error : Error} (visits : h.visits = done ++ [v])
      (outcome : v.outcome = .error error) (ending : h.ending = .failed (error.within v.node.id)) :
      Ends h done (v.node :: rest)
  /-- The limit had passed before the first node that was left. -/
  | stopped {n : Node} {rest : List Node} {elapsed limit : Float} (visits : h.visits = done)
      (ending : h.ending = .stopped n.id (.timeout elapsed limit)) : Ends h done (n :: rest)

/-- A history has one of three shapes. -/
lemma Ends.shape {h : History σ} {done : List Visit} {rest : List Node}
    (hdone : ∀ v ∈ done, v.Succeeded) (hends : h.Ends done rest) :
    h.Completes (done.map Visit.node ++ rest) ∨
      (∃ k, h.FailsAt (done.map Visit.node ++ rest) k) ∨
        ∃ k, h.StopsBefore (done.map Visit.node ++ rest) k := by
  cases hends with
  | completed hvisits hending =>
    exact .inl ⟨by simp [hvisits], hvisits ▸ hdone, hending⟩
  | @failed v rest error hvisits houtcome hending =>
    refine .inr (.inl ⟨done.length, ?_, ?_, v, error, ?_, houtcome, hending⟩)
    · simp [hvisits, List.take_append]
    · simpa [hvisits] using hdone
    · simp [hvisits]
  | @stopped n rest elapsed limit hvisits hending =>
    refine .inr (.inr ⟨done.length, ?_, hvisits ▸ hdone, n, elapsed, limit, ?_, hending⟩)
    · simp [hvisits]
    · simp

end History

/-! ## Gathering -/

/-- Gathering looks at nothing but the sources of the edges into the node. -/
lemma Graph.gather_congr {g : Graph} {id : String} {outputs outputs' seeds seeds' : Fields}
    (h : ∀ edge ∈ g.incoming id, edge.source? outputs seeds = edge.source? outputs' seeds') :
    g.gather id outputs seeds = g.gather id outputs' seeds' := by
  refine List.foldl_ext _ _ _ fun gathered edge hedge => ?_
  rw [Edge.deliver, Edge.deliver, h edge hedge]

namespace Engine

variable {e : Engine σ} {g : Graph} {seeds outputs : Fields} {nodes : List Node} {now : ℕ}
  {state : σ} {h : History σ}

/-! ## One visit -/

/-- The handler of a node is registered for its type, or calls the capability that its type
names. -/
lemma of_handler? {n : Node} {handler : Handler σ} (hhandler : e.handler? n = some handler) :
    (∃ t, (n.type, t) ∈ e.registry ∧ handler = t.handler) ∨
      ∃ name, n.kind = .capability name ∧
        handler = Kinds.runCapability e.directory e.carrier name := by
  unfold handler? at hhandler
  split at hhandler
  · rename_i t ht
    exact Or.inl ⟨t, Keyed.mem_of_value? ht, (Option.some.inj hhandler).symm⟩
  · split at hhandler
    · rename_i name hkind
      exact Or.inr ⟨name, hkind, (Option.some.inj hhandler).symm⟩
    · cases hhandler

/-- The built-in node types that need no service and take no time are run by their functions. -/
lemma handler?_of_builtin {http : Handler σ} (hregistry : e.registry = .builtin http) {n : Node}
    {f : Json → Fields → Outcome}
    (hf : (n.type, f) ∈ [("input", Kinds.runInput),
      ("output", fun _ inputs => .ok (Kinds.runOutput inputs)), ("transform", Kinds.runTransform),
      ("condition", Kinds.runCondition), ("loop", Kinds.runLoop),
      ("merge", fun _ inputs => .ok (Kinds.runMerge inputs)),
      ("split", fun _ inputs => .ok (Kinds.runSplit inputs)), ("code", Kinds.runCode)]) :
    e.handler? n = some (.ofFunction f) := by
  have hvalue : ∀ type, Keyed.value? e.registry type = _ := fun type => by
    rw [hregistry, Registry.builtin, Keyed.value?_ofEntries (by simp)]
  rw [handler?, hvalue]
  simp only [List.mem_cons, Prod.mk.injEq, List.not_mem_nil, or_false] at hf
  rcases hf with ⟨htype, rfl⟩ | ⟨htype, rfl⟩ | ⟨htype, rfl⟩ | ⟨htype, rfl⟩ | ⟨htype, rfl⟩ |
    ⟨htype, rfl⟩ | ⟨htype, rfl⟩ | ⟨htype, rfl⟩
  all_goals
    rw [htype]
    rfl

/-- A node that is cut off has the outcome of a timeout. -/
lemma value_cutOff (e : Engine σ) (start : ℕ) (effect : Effect σ Outcome) :
    (e.cutOff start effect).value = effect.value ∨
      (e.cutOff start effect).value = .error (e.timeout e.limit) := by
  unfold cutOff
  split
  · exact Or.inr rfl
  · exact Or.inl rfl

/-- What a visit does: without a handler the node fails at once, and otherwise its handler runs it,
unless it is cut off. -/
lemma visit_cases {n : Node} {inputs : Fields} {start : ℕ} {state' : σ} {v : Visit}
    (hvisit : e.visit n inputs start state = (v, state')) :
    (e.handler? n = none ∧
      v = ⟨n, inputs, start, start, false, .error (.unknownNodeType n.type)⟩ ∧ state' = state) ∨
    ∃ handler effect, e.handler? n = some handler ∧
      effect = e.cutOff start (handler n.config inputs state) ∧
      v = ⟨n, inputs, start, start + effect.ticks, true, effect.value⟩ ∧
      state' = effect.state := by
  unfold visit at hvisit
  cases hhandler : e.handler? n with
  | none =>
    simp only [hhandler] at hvisit
    obtain ⟨rfl, rfl⟩ := Prod.mk.inj hvisit
    exact Or.inl ⟨rfl, rfl, rfl⟩
  | some handler =>
    simp only [hhandler] at hvisit
    obtain ⟨rfl, rfl⟩ := Prod.mk.inj hvisit
    exact Or.inr ⟨handler, _, rfl, rfl, rfl, rfl⟩

/-- A visit notes the node, what it was given, and when it was started. -/
lemma of_visit {n : Node} {inputs : Fields} {start : ℕ} {state' : σ} {v : Visit}
    (hvisit : e.visit n inputs start state = (v, state')) :
    v.node = n ∧ v.inputs = inputs ∧ v.start = start := by
  rcases visit_cases hvisit with ⟨-, rfl, -⟩ | ⟨handler, effect, -, -, rfl, -⟩
  · exact ⟨rfl, rfl, rfl⟩
  · exact ⟨rfl, rfl, rfl⟩

/-- A node that was run to its end was run by its handler. -/
lemma exists_handler_of_ok {n : Node} {inputs : Fields} {start : ℕ} {state' : σ} {v : Visit}
    {output : Output} (hvisit : e.visit n inputs start state = (v, state'))
    (hok : v.outcome = .ok output) :
    v.handled = true ∧ ∃ handler, e.handler? n = some handler ∧
      (handler n.config inputs state).value = .ok output := by
  rcases visit_cases hvisit with ⟨-, rfl, -⟩ | ⟨handler, effect, hhandler, rfl, rfl, -⟩
  · cases hok
  · refine ⟨rfl, handler, hhandler, ?_⟩
    rcases e.value_cutOff start (handler n.config inputs state) with hvalue | hvalue
    · exact hvalue.symm.trans hok
    · cases hvalue.symm.trans hok

/-! ## Walks -/

/-- A walk whose limit has passed stops before its first node. -/
lemma walk_of_late {n : Node} {rest : List Node} (hlate : e.limit < now) :
    e.walk g seeds (n :: rest) outputs now state =
      ⟨[], .stopped n.id (e.timeout now), now, state⟩ := by
  rw [walk, if_pos hlate]

/-- A walk ends at a node that fails. -/
lemma walk_of_error {n : Node} {rest : List Node} {v : Visit} {state' : σ} {error : Error}
    (htime : now ≤ e.limit)
    (hvisit : e.visit n (g.gather n.id outputs seeds) now state = (v, state'))
    (herror : v.outcome = .error error) :
    e.walk g seeds (n :: rest) outputs now state =
      ⟨[v], .failed (error.within n.id), v.finish, state'⟩ := by
  rw [walk, if_neg (Nat.not_lt.mpr htime), hvisit]
  simp only [herror]

/-- A walk goes on after a node that does not fail. -/
lemma walk_of_ok {n : Node} {rest : List Node} {v : Visit} {state' : σ} {output : Output}
    (htime : now ≤ e.limit)
    (hvisit : e.visit n (g.gather n.id outputs seeds) now state = (v, state'))
    (hok : v.outcome = .ok output) :
    let h := e.walk g seeds rest (Keyed.put outputs n.id output.data) v.finish state'
    e.walk g seeds (n :: rest) outputs now state = { h with visits := v :: h.visits } := by
  rw [walk, if_neg (Nat.not_lt.mpr htime), hvisit]
  simp only [hok]

/-- A walk depends on the edges and on the seeds only by what its nodes gather. When a node is
started, the nodes before it have values, and besides them only those that had one at first. -/
lemma walk_congr (e : Engine σ) {g g' : Graph} {seeds seeds' : Fields} {nodes : List Node}
    {outputs : Fields}
    (hgather : ∀ before n after, nodes = before ++ n :: after → ∀ values : Fields,
      (∀ id, Keyed.hasKey values id ↔ id ∈ before.map Node.id ∨ Keyed.hasKey outputs id) →
        g.gather n.id values seeds = g'.gather n.id values seeds')
    (now : ℕ) (state : σ) :
    e.walk g seeds nodes outputs now state = e.walk g' seeds' nodes outputs now state := by
  induction nodes generalizing outputs now state with
  | nil => rfl
  | cons n rest ih =>
    have hfirst : g.gather n.id outputs seeds = g'.gather n.id outputs seeds' :=
      hgather [] n rest rfl outputs (by simp)
    have hrest : ∀ output : Json, ∀ now state,
        e.walk g seeds rest (Keyed.put outputs n.id output) now state =
          e.walk g' seeds' rest (Keyed.put outputs n.id output) now state := by
      intro output
      refine ih fun before m after hnodes values hvalues => ?_
      refine hgather (n :: before) m after (by rw [hnodes]; rfl) values fun id => ?_
      rw [hvalues id, Keyed.hasKey_put, List.map_cons, List.mem_cons]
      tauto
    rw [walk, walk, hfirst]
    simp only [hrest]

/-- What a walk does: it ends when no node is left; it stops before a node when the limit has
passed; it fails at a node that fails; it goes on with the value of a node that does not. -/
inductive Walked (e : Engine σ) (g : Graph) (seeds : Fields) :
    List Node → Fields → ℕ → σ → History σ → Prop
  | completed {outputs : Fields} {now : ℕ} {state : σ} :
      Walked e g seeds [] outputs now state ⟨[], .completed, now, state⟩
  | stopped {n : Node} {rest : List Node} {outputs : Fields} {now : ℕ} {state : σ}
      (hlate : e.limit < now) :
      Walked e g seeds (n :: rest) outputs now state
        ⟨[], .stopped n.id (e.timeout now), now, state⟩
  | failed {n : Node} {rest : List Node} {outputs : Fields} {now : ℕ} {state state' : σ}
      {v : Visit} {error : Error} (htime : now ≤ e.limit)
      (hvisit : e.visit n (g.gather n.id outputs seeds) now state = (v, state'))
      (herror : v.outcome = .error error) :
      Walked e g seeds (n :: rest) outputs now state
        ⟨[v], .failed (error.within n.id), v.finish, state'⟩
  | next {n : Node} {rest : List Node} {outputs : Fields} {now : ℕ} {state state' : σ}
      {v : Visit} {output : Output} {h : History σ} (htime : now ≤ e.limit)
      (hvisit : e.visit n (g.gather n.id outputs seeds) now state = (v, state'))
      (hok : v.outcome = .ok output)
      (htail : Walked e g seeds rest (Keyed.put outputs n.id output.data) v.finish state' h) :
      Walked e g seeds (n :: rest) outputs now state { h with visits := v :: h.visits }

/-- The walk of an engine is a walk. -/
lemma walked_walk (e : Engine σ) (g : Graph) (seeds : Fields) (nodes : List Node)
    (outputs : Fields) (now : ℕ) (state : σ) :
    e.Walked g seeds nodes outputs now state (e.walk g seeds nodes outputs now state) := by
  induction nodes generalizing outputs now state with
  | nil => exact .completed
  | cons n rest ih =>
    rw [walk]
    split
    · rename_i hlate
      exact .stopped hlate
    · rename_i htime
      cases hvisit : e.visit n (g.gather n.id outputs seeds) now state with
      | mk v state' =>
        simp only
        split
        · rename_i error herror
          exact .failed (Nat.not_lt.mp htime) hvisit herror
        · rename_i output hok
          exact .next (Nat.not_lt.mp htime) hvisit hok (ih _ _ _)

namespace Walked

/-- Every visit is one that the engine makes. -/
lemma visit_eq (hw : e.Walked g seeds nodes outputs now state h) {v : Visit}
    (hv : v ∈ h.visits) : ∃ state state', e.visit v.node v.inputs v.start state = (v, state') := by
  induction hw with
  | completed => simp at hv
  | stopped => simp at hv
  | failed _ hvisit _ =>
    obtain rfl := List.mem_singleton.mp hv
    obtain ⟨hnode, hinputs, hstart⟩ := of_visit hvisit
    exact ⟨_, _, by rw [hnode, hinputs, hstart, hvisit]⟩
  | next _ hvisit _ _ ih =>
    rcases List.mem_cons.mp hv with rfl | hv
    · obtain ⟨hnode, hinputs, hstart⟩ := of_visit hvisit
      exact ⟨_, _, by rw [hnode, hinputs, hstart, hvisit]⟩
    · exact ih hv

/-- A node that was run to its end had a handler. -/
lemma handled (hw : e.Walked g seeds nodes outputs now state h) {v : Visit} (hv : v ∈ h.visits)
    (hsucceeded : v.Succeeded) : v.handled = true := by
  obtain ⟨state, state', hvisit⟩ := hw.visit_eq hv
  obtain ⟨output, hok⟩ := hsucceeded
  exact (exists_handler_of_ok hvisit hok).1

/-- The inputs of a visit are gathered from the values there were at first and those of the visits
before it. -/
lemma inputs_eq (hw : e.Walked g seeds nodes outputs now state h) {before after : List Visit}
    {v : Visit} (hvisits : h.visits = before ++ v :: after) :
    v.inputs =
      g.gather v.node.id (Keyed.putAll outputs (before.filterMap Visit.yield?)) seeds := by
  induction hw generalizing before with
  | completed => simp at hvisits
  | stopped => simp at hvisits
  | failed _ hvisit _ =>
    cases before with
    | nil =>
      obtain ⟨rfl, -⟩ := List.cons.inj hvisits
      obtain ⟨hnode, hinputs, -⟩ := of_visit hvisit
      rw [hinputs, hnode]
      rfl
    | cons first before => simp at hvisits
  | @next n rest outputs now state state' u output h _ hvisit hok _ ih =>
    obtain ⟨hnode, hinputs, -⟩ := of_visit hvisit
    cases before with
    | nil =>
      obtain ⟨rfl, -⟩ := List.cons.inj hvisits
      rw [hinputs, hnode]
      rfl
    | cons first before =>
      obtain ⟨rfl, htail⟩ := List.cons.inj hvisits
      have hyield : u.yield? = some (n.id, output.data) := by rw [Visit.yield?, hok, hnode]
      rw [ih htail, List.filterMap_cons_some hyield]
      rfl

/-- The nodes that were visited before another one were run to their end. -/
lemma succeeded_of_before (hw : e.Walked g seeds nodes outputs now state h)
    {before after : List Visit} {v : Visit} (hvisits : h.visits = before ++ v :: after) :
    ∀ u ∈ before, u.Succeeded := by
  induction hw generalizing before with
  | completed => simp at hvisits
  | stopped => simp at hvisits
  | failed =>
    cases before with
    | nil => simp
    | cons first before => simp at hvisits
  | next _ _ hok _ ih =>
    cases before with
    | nil => simp
    | cons first before =>
      obtain ⟨rfl, htail⟩ := List.cons.inj hvisits
      exact List.forall_mem_cons.mpr ⟨⟨_, hok⟩, ih htail⟩

/-- A walk runs some nodes to their end and leaves the others. -/
lemma exists_ends (hw : e.Walked g seeds nodes outputs now state h) :
    ∃ done rest, nodes = done.map Visit.node ++ rest ∧ (∀ v ∈ done, v.Succeeded) ∧
      h.Ends done rest := by
  induction hw with
  | completed => exact ⟨[], [], rfl, by simp, .completed rfl rfl⟩
  | @stopped n rest => exact ⟨[], n :: rest, rfl, by simp, .stopped rfl rfl⟩
  | failed _ hvisit herror =>
    obtain ⟨rfl, -, -⟩ := of_visit hvisit
    exact ⟨[], _, rfl, by simp, .failed rfl herror rfl⟩
  | @next n rest outputs now state state' v output h _ hvisit hok _ ih =>
    obtain ⟨rfl, -, -⟩ := of_visit hvisit
    obtain ⟨done, left, rfl, hdone, hends⟩ := ih
    refine ⟨v :: done, left, rfl, List.forall_mem_cons.mpr ⟨⟨output, hok⟩, hdone⟩, ?_⟩
    cases hends with
    | completed hvisits hending => exact .completed (congrArg (v :: ·) hvisits) hending
    | failed hvisits houtcome hending =>
      exact .failed (congrArg (v :: ·) hvisits) houtcome hending
    | stopped hvisits hending => exact .stopped (congrArg (v :: ·) hvisits) hending

/-- A walk has one of three shapes. -/
lemma shape (hw : e.Walked g seeds nodes outputs now state h) :
    h.Completes nodes ∨ (∃ k, h.FailsAt nodes k) ∨ ∃ k, h.StopsBefore nodes k := by
  obtain ⟨done, rest, rfl, hdone, hends⟩ := hw.exists_ends
  exact hends.shape hdone

/-- A walk that ends as a completed one has run all its nodes. -/
lemma completes (hw : e.Walked g seeds nodes outputs now state h)
    (hending : h.ending = .completed) : h.Completes nodes := by
  rcases hw.shape with hshape | ⟨k, hshape⟩ | ⟨k, hshape⟩
  · exact hshape
  · obtain ⟨v, error, -, -, hfailed⟩ := hshape.failed
    cases hending.symm.trans hfailed
  · obtain ⟨n, elapsed, limit, -, hstopped⟩ := hshape.stopped
    cases hending.symm.trans hstopped

/-- A walk that ends as a failed one has failed at one of its nodes. -/
lemma failsAt (hw : e.Walked g seeds nodes outputs now state h) {error : Error}
    (hending : h.ending = .failed error) : ∃ k, h.FailsAt nodes k := by
  rcases hw.shape with hshape | hshape | ⟨k, hshape⟩
  · cases hending.symm.trans hshape.ending
  · exact hshape
  · obtain ⟨n, elapsed, limit, -, hstopped⟩ := hshape.stopped
    cases hending.symm.trans hstopped

/-- The visits are those of a first part of the nodes. -/
lemma prefix_of_visits (hw : e.Walked g seeds nodes outputs now state h) :
    h.visits.map Visit.node <+: nodes := by
  rcases hw.shape with hshape | ⟨k, hshape⟩ | ⟨k, hshape⟩
  · exact hshape.visited ▸ List.prefix_rfl
  · exact hshape.visited ▸ List.take_prefix _ _
  · exact hshape.visited ▸ List.take_prefix _ _

end Walked

end Engine

end Dataflow
