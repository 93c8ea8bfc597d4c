import Dataflow.Kinds.Handler
import Dataflow.Expr.Eval

/-!
# Nodes that evaluate an expression

A code node yields the value of its expression; a condition node yields its input at the handle
`true` or `false`, as its expression tells.
-/

namespace Dataflow.Kinds

/-- The configuration of a code node. -/
structure CodeConfig where
  language : String
  code : String

namespace CodeConfig

def languageField : Field Json String := .withDefault "language" Json.readString "expression"
def codeField : Field Json String := .withDefault "code" Json.readString ""

/-- Reads the configuration of a code node. -/
def ofJson : Json → Decoded CodeConfig :=
  Record.read "CodeConfig" [languageField.toCheck, codeField.toCheck] fun r => do
    return { language := ← r.get languageField, code := ← r.get codeField }

end CodeConfig

/-- Yields the value of the expression among the inputs. -/
def runCode (config : Json) (inputs : Fields) : Outcome := do
  let config ← readConfig "Invalid code config" CodeConfig.ofJson config
  if config.language == "expression" then
    return .single (evaluate config.code inputs)
  else
    .error (.unsupported
      ("code language '" ++ config.language ++ "' (only 'expression' is available)"))

/-- The field of a condition node's configuration. -/
def conditionField : Field Json String := .required "condition" Json.readString

/-- Reads the condition off the configuration of a condition node. -/
def readCondition : Json → Decoded String :=
  Record.read "ConditionConfig" [conditionField.toCheck] fun r => r.get conditionField

/-- The names in a condition: the inputs, and `input` for the primary input if there is no such
handle. -/
def conditionScope (inputs : Fields) : Fields :=
  Keyed.putAll [("input", Fields.primary inputs)] inputs

/-- The name of a branch. -/
def branchHandle (taken : Bool) : String := if taken then "true" else "false"

/-- Yields the primary input at the handle of the branch taken, and at `output`. -/
def runCondition (config : Json) (inputs : Fields) : Outcome := do
  let condition ← readConfig "Invalid condition config" readCondition config
  let v := Fields.primary inputs
  let taken := (evaluate condition (conditionScope inputs)).isTruthy
  return ⟨.ofEntries [(branchHandle taken, v), ("output", v)],
    .ofEntries [("condition_result", .bool taken)]⟩

end Dataflow.Kinds
