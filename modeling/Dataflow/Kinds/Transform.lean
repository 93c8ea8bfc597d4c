import Dataflow.Kinds.Wiring
import Dataflow.Expr.Eval
import Dataflow.Template

/-!
# Transform nodes

A transform node turns its input into its output in one of a few ways; the ways that take a list
apart pass on an input that is no list.
-/

namespace Dataflow.Kinds

/-- The configuration of a transform node. -/
structure TransformConfig where
  type : String
  path : Option String
  template : Option String
  expression : Option String
  initial : Option Json

namespace TransformConfig

/-- A field that may be absent or `null`. -/
def optionalText (name : String) : Field Json (Option String) :=
  .withDefault name (Json.readOption Json.readString) none

def typeField : Field Json String := .withDefault "type" Json.readString "passthrough"
def pathField : Field Json (Option String) := optionalText "path"
def templateField : Field Json (Option String) := optionalText "template"
def expressionField : Field Json (Option String) := optionalText "expression"
def initialField : Field Json (Option Json) :=
  .withDefault "initial" (Json.readOption Json.readAny) none

/-- Reads the configuration of a transform node. -/
def ofJson : Json → Decoded TransformConfig :=
  Record.read "TransformConfig"
    [typeField.toCheck, pathField.toCheck, templateField.toCheck, expressionField.toCheck,
      initialField.toCheck]
    fun r => do
      return {
        type := ← r.get typeField
        path := ← r.get pathField
        template := ← r.get templateField
        expression := ← r.get expressionField
        initial := ← r.get initialField }

/-- The expression, which the ways that take lists apart cannot do without. -/
def needExpression (c : TransformConfig) : Except Error String :=
  match c.expression with
  | some e => .ok e
  | none => .error (.node ("Transform type '" ++ c.type ++ "' requires an 'expression'"))

end TransformConfig

/-- The names in an expression for one item. -/
def itemScope (inputs : Fields) (item : Json) (index : Nat) : Fields :=
  Keyed.put (Keyed.put inputs "item" item) "index" (.ofNat index)

/-- The value of the expression for every item. -/
def mapItems (expression : String) (inputs : Fields) (items : List Json) : List Json :=
  items.zipIdx.map fun (item, index) => evaluate expression (itemScope inputs item index)

/-- The items for which the expression is true. -/
def filterItems (expression : String) (inputs : Fields) (items : List Json) : List Json :=
  (items.zipIdx.filter fun (item, index) =>
    (evaluate expression (itemScope inputs item index)).isTruthy).map Prod.fst

/-- The items drawn together, one by one, into the value known as `acc`. -/
def reduceItems (expression : String) (inputs : Fields) (initial : Json) (items : List Json) :
    Json :=
  items.zipIdx.foldl
    (fun acc (item, index) =>
      evaluate expression (Keyed.put (itemScope inputs item index) "acc" acc))
    initial

/-- What becomes of a list in the way named `map`, `filter` or `reduce`. -/
def overItems (c : TransformConfig) (v : Json) (f : String → List Json → Json) :
    Except Error Json :=
  match v with
  | .array items => c.needExpression.map fun e => f e items
  | v => .ok v

/-- The output of a transform node. -/
def transform (c : TransformConfig) (inputs : Fields) : Except Error Json :=
  let v := Fields.primary inputs
  match c.type with
  | "passthrough" => .ok v
  | "json_parse" => .ok (parseText v)
  | "json_stringify" => .ok (.string v.compact)
  | "extract" =>
    match c.path with
    | some path => .ok ((v.at? path.toList).getD .null)
    | none => .error (.node "Transform type 'extract' requires a 'path'")
  | "template" => .ok (.string (Template.render (c.template.getD "") inputs .plain))
  | "map" => overItems c v fun e items => .array (mapItems e inputs items)
  | "filter" => overItems c v fun e items => .array (filterItems e inputs items)
  | "reduce" => overItems c v fun e items => reduceItems e inputs (c.initial.getD (.ofNat 0)) items
  | other => .error (.node ("Unknown transform type '" ++ other ++ "'"))

/-- Yields the transformed input. -/
def runTransform (config : Json) (inputs : Fields) : Outcome := do
  let config ← readConfig "Invalid transform config" TransformConfig.ofJson config
  return .single (← transform config inputs)

end Dataflow.Kinds
