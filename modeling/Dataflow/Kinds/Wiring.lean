import Dataflow.Kinds.Handler
import Dataflow.Json.Reader

/-!
# Nodes that pass values on

Input nodes bring values into a workflow, output nodes collect results, merge nodes put all
inputs into one object, and split nodes take an object apart.
-/

namespace Dataflow.Kinds

/-- The configuration of an input node. -/
structure InputConfig where
  defaultValue : Option Json
  inputType : Option String

namespace InputConfig

def defaultValueField : Field Json (Option Json) :=
  .withDefault "defaultValue" (Json.readOption Json.readAny) none
def inputTypeField : Field Json (Option String) :=
  .withDefault "inputType" (Json.readOption Json.readString) none

/-- Reads the configuration of an input node. -/
def ofJson : Json → Decoded InputConfig :=
  Record.read "InputConfig" [defaultValueField.toCheck, inputTypeField.toCheck] fun r => do
    return { defaultValue := ← r.get defaultValueField, inputType := ← r.get inputTypeField }

end InputConfig

/-- The value written in a string, if it is valid JSON; any other value is kept as it is. -/
def parseText : Json → Json
  | .string s => (Json.parse? s).getD (.string s)
  | v => v

/-- Yields the value supplied at the handle `value`, or the default. -/
def runInput (config : Json) (inputs : Fields) : Outcome := do
  let config ← readConfig "Invalid input config" InputConfig.ofJson config
  let v := ((Fields.present? inputs "value").or config.defaultValue).getD .null
  return .single (if config.inputType == some "json" then parseText v else v)

/-- Yields the primary input as a result. -/
def runOutput (inputs : Fields) : Output :=
  .ofData (.ofEntries [("result", Fields.primary inputs)])

/-- Yields all inputs in one object. -/
def runMerge (inputs : Fields) : Output :=
  ⟨.ofEntries [("output", .object inputs)], .ofEntries [("inputs_count", .ofNat inputs.length)]⟩

/-- Yields the entries of an object at handles of their own; any other value at `output`. -/
def runSplit (inputs : Fields) : Output :=
  match Fields.present? inputs "input" with
  | some (.object fields) => .ofData (.object fields)
  | some v => .single v
  | none => .single .null

end Dataflow.Kinds
