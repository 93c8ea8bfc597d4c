import Dataflow.Kinds.Handler
import Dataflow.Capability.Call
import Dataflow.Text.Upper

/-!
# Nodes that call a capability

The type of such a node is the name of the capability. Its inputs are added to the configured
parameters, and stand in place of parameters with the same name.
-/

namespace Dataflow.Kinds

/-- The configuration of a node that calls a capability. -/
structure CapabilityConfig where
  params : Fields
  endpoint : Option String
  method : String

namespace CapabilityConfig

def paramsField : Field Json Fields := .withDefault "params" Json.readFields []
def endpointField : Field Json (Option String) :=
  .withDefault "endpoint" (Json.readOption Json.readString) none
def methodField : Field Json String := .withDefault "method" Json.readString "POST"

/-- Reads the configuration of a node that calls a capability. -/
def ofJson : Json → Decoded CapabilityConfig :=
  Record.read "CapabilityConfig"
    [paramsField.toCheck, endpointField.toCheck, methodField.toCheck]
    fun r => do
      return {
        params := ← r.get paramsField
        endpoint := ← r.get endpointField
        method := ← r.get methodField }

end CapabilityConfig

/-- The route that a node calls: the configured one, or that of the first endpoint. -/
def chooseRoute (capability : Capability) (name : String) (config : CapabilityConfig) :
    Except Error String :=
  match config.endpoint with
  | some route => .ok route
  | none => match capability.defaultEndpoint? with
    | some endpoint => .ok endpoint.route
    | none => .error (.node
        ("Capability '" ++ name ++ "' declares no endpoints and none was configured"))

/-- The call that a node makes, if it can make one. -/
def callOf (directory : Directory) (name : String) (config : Json) (inputs : Fields) :
    Except Error Call :=
  match Keyed.value? directory name with
  | none => .error (.unknownNodeType name)
  | some capability =>
    if !capability.available then .error (.capabilityUnavailable name)
    else do
      let config ← readConfig ("Invalid config for capability '" ++ name ++ "'")
        CapabilityConfig.ofJson config
      let route ← chooseRoute capability name config
      return {
        capability := name
        namespacePath := capability.namespacePath
        route
        method := Text.upper config.method
        params := Keyed.putAll config.params inputs }

/-- The outcome for an answer. -/
def outcomeOf (name : String) (reply : Reply) : Outcome :=
  if reply.isError then .error (.capability name reply.status reply.errorMessage)
  else .ok ⟨.ofEntries [("output", reply.body)],
    .ofEntries [("capability", .string name), ("status", .ofNat reply.status)]⟩

/-- Calls the capability of the given name and yields the body of its answer. -/
def runCapability {σ : Type} (directory : Directory) (carrier : Carrier σ) (name : String) :
    Handler σ := fun config inputs state =>
  match callOf directory name config inputs with
  | .error e => .pure (.error e) state
  | .ok call => (carrier call state).map fun answer => answer.bind (outcomeOf name)

end Dataflow.Kinds
