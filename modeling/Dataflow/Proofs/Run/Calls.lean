import Dataflow.Run.Standard
import Dataflow.Proofs.Results
import Dataflow.Proofs.Run.Gathering
import Dataflow.Proofs.Run.Outputs
import Dataflow.Proofs.Service.Recording

/-!
# The calls of a run

The calls of capabilities that a run makes are noted by a carrier that records them
(`Engine.recorded`, `Engine.calls`). Recording changes nothing else about the run, and the record
is known from the visits (`Engine.run_recorded`): a node that reaches a capability
(`Engine.Reaches`) makes one call, and every other node makes none (`Engine.calls_of_run`).

Whether a node is cut off at the limit plays no part in this. It is started before it is cut off,
and the call is the first thing that it does.
-/

namespace Dataflow

variable {σ ρ : Type}

/-- A node whose type is not built in is named after a capability. -/
lemma Node.kind_eq_capability_iff {n : Node} {name : String} :
    n.kind = .capability name ↔ n.kind.isBuiltin = false ∧ name = n.type := by
  unfold Node.kind Kind.ofTag
  split
  case h_11 => simp [Kind.isBuiltin, eq_comm]
  all_goals simp [Kind.isBuiltin]

/-! ## What a node asks for -/

namespace Kinds

variable {capability : Capability} {name route : String}

/-- The route of a node is the configured one, or else that of the first endpoint. -/
lemma chooseRoute_eq_ok_iff {config : CapabilityConfig} :
    chooseRoute capability name config = .ok route ↔
      config.endpoint.or (capability.endpoints.head?.map Endpoint.route) = some route := by
  unfold chooseRoute Capability.defaultEndpoint?
  cases config.endpoint with
  | some configured => simp
  | none =>
    cases capability.endpoints.head? with
    | some endpoint => simp
    | none => simp

/-- A node can make a call if the capability is available, the configuration can be read, and there
is a route; then the call is known. -/
lemma callOf_eq_ok_iff {directory : Directory} {config : Json} {inputs : Fields} {call : Call} :
    callOf directory name config inputs = .ok call ↔
      ∃ capability c route, Keyed.value? directory name = some capability ∧
        capability.available = true ∧ CapabilityConfig.ofJson config = .ok c ∧
        c.endpoint.or (capability.endpoints.head?.map Endpoint.route) = some route ∧
        call = ⟨name, capability.namespacePath, route, Text.upper c.method,
          Keyed.putAll c.params inputs⟩ := by
  unfold callOf
  constructor
  · intro hcall
    split at hcall
    · cases hcall
    · rename_i capability hlisted
      split at hcall
      · cases hcall
      · rename_i havailable
        obtain ⟨c, hconfig, hcall⟩ := ok_of_bind hcall
        obtain ⟨route, hroute, hcall⟩ := ok_of_bind hcall
        exact ⟨capability, c, route, hlisted, by simpa using havailable,
          mapError_eq_ok_iff.mp hconfig, chooseRoute_eq_ok_iff.mp hroute,
          (Except.ok.inj hcall).symm⟩
  · rintro ⟨capability, c, route, hlisted, havailable, hread, hroute, rfl⟩
    have hconfig : ∀ words, readConfig words CapabilityConfig.ofJson config = .ok c :=
      fun words => mapError_eq_ok_iff.mpr hread
    have hchosen : chooseRoute capability name c = .ok route := chooseRoute_eq_ok_iff.mpr hroute
    simp only [hlisted, havailable, hconfig, Bool.not_true, Bool.false_eq_true, if_false, bind,
      Except.bind, hchosen]
    rfl

end Kinds

namespace Engine

/-- The node reaches a capability at a route: its type is neither registered nor built in but the
name of an available capability, its configuration can be read, and the route is the configured one
or else that of the first endpoint. -/
structure Reaches (e : Engine σ) (n : Node) (capability : Capability)
    (config : Kinds.CapabilityConfig) (route : String) : Prop where
  unregistered : n.type ∉ Keyed.keys e.registry
  not_builtin : n.kind.isBuiltin = false
  listed : Keyed.value? e.directory n.type = some capability
  available : capability.available = true
  readable : Kinds.CapabilityConfig.ofJson n.config = .ok config
  routed : config.endpoint.or (capability.endpoints.head?.map Endpoint.route) = some route

/-- The node reaches some capability. -/
def IsCalling (e : Engine σ) (n : Node) : Prop :=
  ∃ capability config route, e.Reaches n capability config route

/-- The call is what the visited node asks of the capability that it reaches: inputs stand in place
of parameters with the same name. -/
def Asks (e : Engine σ) (v : Visit) (call : Call) : Prop :=
  ∃ capability config, e.Reaches v.node capability config call.route ∧
    call.capability = v.node.type ∧
    call.namespacePath = capability.namespacePath ∧
    call.method = Text.upper config.method ∧
    (∀ key, Keyed.value? call.params key =
      (Keyed.value? v.inputs key).or (Keyed.value? config.params key)) ∧
    (Keyed.Sorted config.params → Keyed.Sorted call.params)

/-- The call that a node makes for its inputs, if it makes one. -/
def call? (e : Engine σ) (n : Node) (inputs : Fields) : Option Call :=
  match Keyed.value? e.registry n.type, n.kind with
  | none, .capability name => (Kinds.callOf e.directory name n.config inputs).toOption
  | _, _ => none

variable {e : Engine σ} {n : Node} {inputs : Fields} {call : Call}

/-- A node makes a call exactly if it reaches a capability. -/
lemma call?_eq_some_iff :
    e.call? n inputs = some call ↔
      ∃ capability config route, e.Reaches n capability config route ∧
        call = ⟨n.type, capability.namespacePath, route, Text.upper config.method,
          Keyed.putAll config.params inputs⟩ := by
  constructor
  · intro hcall
    unfold call? at hcall
    split at hcall
    · rename_i name hunregistered hkind
      obtain ⟨hbuiltin, rfl⟩ := Node.kind_eq_capability_iff.mp hkind
      cases hresult : Kinds.callOf e.directory n.type n.config inputs with
      | error error =>
        rw [hresult] at hcall
        cases hcall
      | ok call' =>
        rw [hresult] at hcall
        obtain rfl : call' = call := Option.some.inj hcall
        obtain ⟨capability, config, route, hlisted, havailable, hread, hroute, rfl⟩ :=
          Kinds.callOf_eq_ok_iff.mp hresult
        exact ⟨capability, config, route, ⟨Keyed.value?_eq_none_iff.mp hunregistered, hbuiltin,
          hlisted, havailable, hread, hroute⟩, rfl⟩
    · cases hcall
  · rintro ⟨capability, config, route, hreaches, rfl⟩
    have hkind : n.kind = .capability n.type :=
      Node.kind_eq_capability_iff.mpr ⟨hreaches.not_builtin, rfl⟩
    rw [call?, Keyed.value?_eq_none_iff.mpr hreaches.unregistered, hkind]
    simp only
    rw [Kinds.callOf_eq_ok_iff.mpr ⟨capability, config, route, hreaches.listed,
      hreaches.available, hreaches.readable, hreaches.routed, rfl⟩]
    rfl

/-- Whether a node makes a call does not depend on its inputs. -/
lemma isCalling_iff (inputs : Fields) : e.IsCalling n ↔ (e.call? n inputs).isSome := by
  rw [Option.isSome_iff_exists]
  constructor
  · rintro ⟨capability, config, route, hreaches⟩
    exact ⟨_, call?_eq_some_iff.mpr ⟨capability, config, route, hreaches, rfl⟩⟩
  · rintro ⟨call, hcall⟩
    obtain ⟨capability, config, route, hreaches, -⟩ := call?_eq_some_iff.mp hcall
    exact ⟨capability, config, route, hreaches⟩

instance : DecidablePred e.IsCalling := fun _ => decidable_of_iff _ (isCalling_iff []).symm

/-- The call of a visited node is what the node asks. -/
lemma asks_of_call? {v : Visit} (hinputs : Keyed.Sorted v.inputs)
    (hcall : e.call? v.node v.inputs = some call) : e.Asks v call := by
  obtain ⟨capability, config, route, hreaches, rfl⟩ := call?_eq_some_iff.mp hcall
  exact ⟨capability, config, hreaches, rfl, rfl, rfl,
    Keyed.value?_putAll_of_nodup hinputs.nodup config.params,
    fun hparams => hparams.putAll v.inputs⟩

end Engine

/-! ## Recording -/

/-- The node type with a record beside the state. -/
def NodeType.beside (t : NodeType σ) : NodeType (σ × ρ) := ⟨t.description, t.handler.beside⟩

/-- The history with a record beside the state. -/
def History.beside (h : History σ) (record : ρ) : History (σ × ρ) :=
  ⟨h.visits, h.ending, h.finish, (h.state, record)⟩

/-- The run with a record beside the state. -/
def Run.beside (record : ρ) : Run σ → Run (σ × ρ)
  | .rejected fault state => .rejected fault (state, record)
  | .started order h => .started order (h.beside record)

namespace Engine

/-- The engine whose carrier notes the calls that it is asked to carry. -/
def recorded (e : Engine σ) : Engine (σ × List Call) where
  registry := e.registry.map fun entry => (entry.1, entry.2.beside)
  directory := e.directory
  carrier := Service.recorded e.carrier
  limit := e.limit
  enforced := e.enforced

/-- The calls that a run makes, in the order in which it makes them. -/
def calls (e : Engine σ) (w : Workflow) (seeds : Fields) (state : σ) : List Call :=
  (e.recorded.run w seeds (state, [])).state.2

/-- A record beside an effect does not change how the effect is cut off. -/
lemma cutOff_beside (e : Engine σ) (start : ℕ) (effect : Effect σ Outcome) (noted : List Call) :
    e.recorded.cutOff start (effect.beside noted) = (e.cutOff start effect).beside noted := by
  by_cases hcut : (e.enforced && start + effect.ticks > e.limit) = true
  · rw [cutOff, cutOff, if_pos hcut]
    exact if_pos hcut
  · rw [cutOff, cutOff, if_neg hcut]
    exact if_neg hcut

/-- The handler of a node notes the call that the node makes, if it makes one, and works as
before. -/
lemma handler?_recorded (e : Engine σ) (n : Node) :
    (e.handler? n = none ∧ e.recorded.handler? n = none ∧ ∀ inputs, e.call? n inputs = none) ∨
    ∃ handler handler', e.handler? n = some handler ∧ e.recorded.handler? n = some handler' ∧
      ∀ inputs state noted, handler' n.config inputs (state, noted) =
        (handler n.config inputs state).beside (noted ++ (e.call? n inputs).toList) := by
  have hregistry : Keyed.value? e.recorded.registry n.type =
      (Keyed.value? e.registry n.type).map NodeType.beside :=
    Keyed.value?_map e.registry NodeType.beside n.type
  unfold handler? call?
  rw [hregistry]
  cases Keyed.value? e.registry n.type with
  | some t =>
    refine Or.inr ⟨t.handler, t.handler.beside, rfl, rfl, fun inputs state noted => ?_⟩
    simp only [Option.toList_none, List.append_nil]
    rfl
  | none =>
    cases hkind : n.kind with
    | capability name =>
      refine Or.inr ⟨_, _, rfl, rfl, fun inputs state noted => ?_⟩
      unfold Kinds.runCapability
      simp only [recorded]
      cases Kinds.callOf e.directory name n.config inputs with
      | error error =>
        simp only [Except.toOption, Option.toList_none, List.append_nil]
        rfl
      | ok call => rfl
    | _ => exact Or.inl ⟨rfl, rfl, fun _ => rfl⟩

variable {e : Engine σ} {g : Graph} {seeds inputs outputs : Fields} {n : Node} {nodes : List Node}
  {now : ℕ} {state state' : σ} {v : Visit} {h : History σ}

/-- A visit notes the call that the node makes, if it makes one. -/
lemma visit_recorded (hvisit : e.visit n inputs now state = (v, state')) (noted : List Call) :
    e.recorded.visit n inputs now (state, noted) =
      (v, state', noted ++ (e.call? v.node v.inputs).toList) := by
  obtain ⟨hnode, hinputs, -⟩ := of_visit hvisit
  rw [hnode, hinputs]
  unfold visit at hvisit ⊢
  rcases e.handler?_recorded n with ⟨hnone, hnone', hcall⟩ | ⟨handler, handler', hsome, hsome', heq⟩
  · rw [hnone] at hvisit
    obtain ⟨rfl, rfl⟩ := Prod.mk.inj hvisit
    rw [hnone', hcall, Option.toList_none, List.append_nil]
  · rw [hsome] at hvisit
    obtain ⟨rfl, rfl⟩ := Prod.mk.inj hvisit
    simp only [hsome', heq, cutOff_beside]
    rfl

/-- A walk notes the calls of its visits. -/
lemma Walked.recorded (hw : e.Walked g seeds nodes outputs now state h) (noted : List Call) :
    e.recorded.walk g seeds nodes outputs now (state, noted) =
      h.beside (noted ++ h.visits.filterMap fun v => e.call? v.node v.inputs) := by
  induction hw generalizing noted with
  | completed =>
    rw [List.filterMap_nil, List.append_nil]
    rfl
  | @stopped n rest outputs now state hlate =>
    have hlate' : e.recorded.limit < now := hlate
    rw [walk_of_late hlate', List.filterMap_nil, List.append_nil]
    rfl
  | @failed n rest outputs now state state' v error htime hvisit herror =>
    have htime' : now ≤ e.recorded.limit := htime
    rw [walk_of_error htime' (visit_recorded hvisit noted) herror,
      List.filterMap_eq_flatMap_toList, List.flatMap_singleton]
    rfl
  | @next n rest outputs now state state' v output h htime hvisit hok _ ih =>
    have htime' : now ≤ e.recorded.limit := htime
    rw [walk_of_ok htime' (visit_recorded hvisit noted) hok, ih, List.filterMap_eq_flatMap_toList,
      List.filterMap_eq_flatMap_toList, List.flatMap_cons, List.append_assoc]
    rfl

/-! ## Runs -/

/-- A run notes the calls of its visits. -/
lemma run_recorded (e : Engine σ) (w : Workflow) (seeds : Fields) (state : σ) :
    e.recorded.run w seeds (state, []) = (e.run w seeds state).beside
      ((e.run w seeds state).visits.filterMap fun v => e.call? v.node v.inputs) := by
  rw [run, run]
  cases w.plan with
  | error fault => rfl
  | ok order =>
    simp only [(e.walked_walk _ seeds _ [] 0 state).recorded []]
    rfl

/-- The calls of a run are those of its visits. -/
lemma calls_eq (e : Engine σ) (w : Workflow) (seeds : Fields) (state : σ) :
    e.calls w seeds state =
      (e.run w seeds state).visits.filterMap fun v => e.call? v.node v.inputs := by
  rw [calls, run_recorded]
  cases e.run w seeds state with
  | rejected fault state => rfl
  | started order h => rfl

/-- The calls of a run are those of the nodes that it started and that reach a capability, one for
each such node and in the order in which they were started; a run that is rejected makes none.
Noting the calls leaves the run as it is. -/
theorem calls_of_run (e : Engine σ) (w : Workflow) (seeds : Fields) (state : σ) :
    let run := e.run w seeds state
    let calls := e.calls w seeds state
    e.recorded.run w seeds (state, []) = run.beside calls ∧
      List.Forall₂ e.Asks (run.visits.filter fun v => e.IsCalling v.node) calls ∧
      (∀ order h, run = .started order h →
        (h.visits.map fun v => v.node.id) <+: order ∧ order.Nodup ∧
        ∀ v ∈ h.visits, v.inputs = (Graph.ofWorkflow w).gather v.node.id h.outputs seeds) ∧
      (∀ fault, w.plan = .error fault → calls = []) ∧
      e.recorded.runLate w (state, []) = (e.runLate w state).beside [] := by
  intro run calls
  have hcalls : calls = run.visits.filterMap fun v => e.call? v.node v.inputs :=
    e.calls_eq w seeds state
  refine ⟨by rw [hcalls, run_recorded], ?_, fun order h hrun => ?_, fun fault hplan => ?_, ?_⟩
  · have hsorted : ∀ v ∈ run.visits, Keyed.Sorted v.inputs := by
      intro v hv
      cases hrun : run with
      | rejected fault state =>
        rw [hrun] at hv
        cases hv
      | started order h =>
        rw [hrun] at hv
        rw [inputs_eq_gather_outputs hrun hv]
        exact Graph.sorted_gather _ _ _ _
    rw [hcalls]
    exact forall₂_filterMap (fun v _ => isCalling_iff v.inputs)
      fun v hv call hcall => asks_of_call? (hsorted v hv) hcall
  · obtain ⟨hplan, -⟩ := walked_of_run hrun
    exact ⟨prefix_of_run hrun, Workflow.nodup_of_plan hplan,
      fun v hv => inputs_eq_gather_outputs hrun hv⟩
  · have hrun : run = .rejected fault state := by
      show e.run w seeds state = _
      rw [Engine.run, hplan]
    rw [hcalls, hrun]
    rfl
  · rw [runLate, runLate]
    cases w.plan with
    | error fault => rfl
    | ok order =>
      cases order with
      | nil => rfl
      | cons id order => rfl

end Engine

end Dataflow
