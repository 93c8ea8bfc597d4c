import Dataflow.Proofs.Results
import Dataflow.Proofs.Run.Walk
import Dataflow.Proofs.Wrapping

/-!
# Attribution

The engine attributes the error of a node to that node, unless it is attributed already. The calls
of capabilities attribute nothing by themselves (`Kinds.node?_of_callOf`), so if no handler and no
carrier does, the errors of all visits are left to the engine
(`Engine.Unattributed.node?_of_visit`).
-/

namespace Dataflow

variable {σ : Type}

/-- An error of the category of timeouts is a timeout, unless it is attributed. -/
lemma Error.eq_timeout_of_kind {error : Error} (hkind : error.kind = .timeout)
    (hnode : error.node? = none) : ∃ elapsed limit, error = .timeout elapsed limit := by
  cases error with
  | timeout elapsed limit => exact ⟨elapsed, limit, rfl⟩
  | inNode id source => cases hnode
  | _ => cases hkind

/-- A bad configuration is not attributed to a node. -/
lemma node?_of_readConfig {α : Type} {words : String} {read : Json → Decoded α} {config : Json}
    {error : Error} (herror : readConfig words read config = .error error) :
    error.node? = none := by
  unfold readConfig at herror
  cases hread : read config with
  | ok value =>
    rw [hread] at herror
    cases herror
  | error mismatch =>
    rw [hread] at herror
    cases herror
    rfl

/-- A route that is not there is not attributed to a node. -/
lemma Kinds.node?_of_chooseRoute {capability : Capability} {name : String}
    {config : CapabilityConfig} {error : Error}
    (herror : chooseRoute capability name config = .error error) : error.node? = none := by
  unfold chooseRoute at herror
  split at herror
  · cases herror
  · split at herror
    · cases herror
    · cases herror
      rfl

/-- What keeps a node from calling a capability is not attributed to a node. -/
lemma Kinds.node?_of_callOf {directory : Directory} {name : String} {config : Json}
    {inputs : Fields} {error : Error}
    (herror : callOf directory name config inputs = .error error) : error.node? = none := by
  unfold callOf at herror
  split at herror
  · cases herror
    rfl
  · rename_i capability _
    split at herror
    · cases herror
      rfl
    · rcases error_of_bind herror with hconfig | ⟨config', -, herror⟩
      · exact node?_of_readConfig hconfig
      · rcases error_of_bind herror with hroute | ⟨route, -, herror⟩
        · exact node?_of_chooseRoute hroute
        · cases herror

namespace Engine

/-- Neither the handlers of the registry nor the carrier attribute their errors to a node. -/
structure Unattributed (e : Engine σ) : Prop where
  registry : ∀ entry ∈ e.registry, ∀ config inputs state error,
    (entry.2.handler config inputs state).value = .error error → error.node? = none
  carrier : ∀ call state error, (e.carrier call state).value = .error error → error.node? = none

variable {e : Engine σ} {n : Node} {state : σ} {error : Error}

/-- The handler of a node does not attribute its errors. -/
lemma Unattributed.node?_of_handler (he : e.Unattributed) {handler : Handler σ}
    (hhandler : e.handler? n = some handler) {config : Json} {inputs : Fields}
    (herror : (handler config inputs state).value = .error error) : error.node? = none := by
  rcases of_handler? hhandler with ⟨t, ht, rfl⟩ | ⟨name, -, rfl⟩
  · exact he.registry _ ht config inputs state error herror
  · unfold Kinds.runCapability at herror
    split at herror
    · rename_i error' hcall
      obtain rfl := Except.error.inj herror
      exact Kinds.node?_of_callOf hcall
    · rename_i call _
      rcases error_of_bind herror with hcarrier | ⟨reply, -, houtcome⟩
      · exact he.carrier call state error hcarrier
      · unfold Kinds.outcomeOf at houtcome
        split at houtcome
        · obtain rfl := Except.error.inj houtcome
          rfl
        · cases houtcome

/-- Nothing attributes the error of a node before the engine does. -/
lemma Unattributed.node?_of_visit (he : e.Unattributed) {inputs : Fields} {start : ℕ}
    {state' : σ} {v : Visit} (hvisit : e.visit n inputs start state = (v, state'))
    (herror : v.outcome = .error error) : error.node? = none := by
  rcases visit_cases hvisit with ⟨-, rfl, -⟩ | ⟨handler, effect, hhandler, rfl, rfl, -⟩
  · obtain rfl := Except.error.inj herror
    rfl
  · rcases e.value_cutOff start (handler n.config inputs state) with hvalue | hvalue
    · exact he.node?_of_handler hhandler (hvalue.symm.trans herror)
    · obtain rfl := Except.error.inj (hvalue.symm.trans herror)
      rfl

end Engine

end Dataflow
