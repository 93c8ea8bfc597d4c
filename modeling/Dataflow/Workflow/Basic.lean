import Dataflow.Json.Basic
import Dataflow.Distinct

/-!
# Workflows

A workflow is a list of nodes and a list of edges between handles of nodes. The type of a node is
a tag; a tag that is not the name of a built-in kind names a capability.
-/

namespace Dataflow

/-- What a node does. -/
inductive Kind where
  | input
  | output
  | transform
  | condition
  | loop
  | merge
  | split
  | delay
  | http
  | code
  | capability (name : String)
deriving DecidableEq, Repr

namespace Kind

/-- The kind that a tag stands for. -/
def ofTag (tag : String) : Kind :=
  match tag with
  | "input" => .input
  | "output" => .output
  | "transform" => .transform
  | "condition" => .condition
  | "loop" => .loop
  | "merge" => .merge
  | "split" => .split
  | "delay" => .delay
  | "http" => .http
  | "code" => .code
  | other => .capability other

/-- The tag of a kind. -/
def tag : Kind → String
  | .input => "input"
  | .output => "output"
  | .transform => "transform"
  | .condition => "condition"
  | .loop => "loop"
  | .merge => "merge"
  | .split => "split"
  | .delay => "delay"
  | .http => "http"
  | .code => "code"
  | .capability name => name

/-- Whether the kind is built in. -/
def isBuiltin : Kind → Bool
  | .capability _ => false
  | _ => true

end Kind

/-- A node: its identifier, its type tag and the configuration for its kind. -/
structure Node where
  id : String
  type : String
  config : Json
deriving Inhabited

namespace Node

/-- The configuration of a node that is given none. -/
def defaultConfig : Json := .object []

/-- The kind of a node. -/
def kind (n : Node) : Kind := .ofTag n.type

end Node

/-- An edge carries the value at a handle of its source to a handle of its target. -/
structure Edge where
  source : String
  target : String
  sourceHandle : String
  targetHandle : String
deriving DecidableEq, Repr, Inhabited

namespace Edge

/-- The source handle of an edge that names none. -/
def defaultSourceHandle : String := "output"

/-- The target handle of an edge that names none. -/
def defaultTargetHandle : String := "input"

/-- An edge between the default handles. -/
def between (source target : String) : Edge :=
  ⟨source, target, defaultSourceHandle, defaultTargetHandle⟩

end Edge

/-- A workflow. -/
structure Workflow where
  name : Option String
  description : Option String
  nodes : List Node
  edges : List Edge
deriving Inhabited

namespace Workflow

/-- The identifiers of the nodes, in declaration order. -/
def ids (w : Workflow) : List String := w.nodes.map Node.id

/-- The name by which a workflow is announced. -/
def displayName (w : Workflow) : String := w.name.getD "<anonymous>"

/-- The identifiers of the nodes whose values are the results of a run. -/
def outputIds (w : Workflow) : List String :=
  (w.nodes.filter fun n => n.kind == .output).map Node.id

/-- The type tags in use, each once, in order. -/
def types (w : Workflow) : List String := distinct textBefore (w.nodes.map Node.type)

end Workflow

end Dataflow
