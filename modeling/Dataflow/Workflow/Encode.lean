import Dataflow.Workflow.Basic
import Dataflow.Decode.FromJson

/-!
# Writing and reading workflows

`Workflow.toJson` writes every default out and leaves out a name or a description that is not
there. `Workflow.read` reads a workflow from a value of any format.
-/

namespace Dataflow

variable {V : Type} [ReadableAsJson V]

namespace Edge

def sourceField : Field V String := .required "source" Readable.readString
def targetField : Field V String := .required "target" Readable.readString
def sourceHandleField : Field V String :=
  .withDefault "sourceHandle" Readable.readString defaultSourceHandle
def targetHandleField : Field V String :=
  .withDefault "targetHandle" Readable.readString defaultTargetHandle

/-- The edge as a value. -/
def toJson (e : Edge) : Json :=
  .ofEntries [
    ("source", .string e.source), ("target", .string e.target),
    ("sourceHandle", .string e.sourceHandle), ("targetHandle", .string e.targetHandle)]

/-- Reads an edge. -/
def read : V → Decoded Edge :=
  Record.read "Edge"
    [sourceField.toCheck, targetField.toCheck, sourceHandleField.toCheck,
      targetHandleField.toCheck]
    fun r => do
      return {
        source := ← r.get sourceField
        target := ← r.get targetField
        sourceHandle := ← r.get sourceHandleField
        targetHandle := ← r.get targetHandleField }

end Edge

namespace Node

def idField : Field V String := .required "id" Readable.readString
def typeField : Field V String := .required "type" Readable.readString
def configField : Field V Json := .withDefault "config" ReadableAsJson.readAny defaultConfig

/-- The node as a value. -/
def toJson (n : Node) : Json :=
  .ofEntries [("id", .string n.id), ("type", .string n.type), ("config", n.config)]

/-- Reads a node. -/
def read : V → Decoded Node :=
  Record.read "Node" [idField.toCheck, typeField.toCheck, configField.toCheck] fun r => do
    return {
      id := ← r.get idField
      type := ← r.get typeField
      config := ← r.get configField }

end Node

namespace Workflow

def nameField : Field V (Option String) :=
  .withDefault "name" (Readable.readOption Readable.readString) none
def descriptionField : Field V (Option String) :=
  .withDefault "description" (Readable.readOption Readable.readString) none
def nodesField : Field V (List Node) := .required "nodes" (Readable.readList Node.read)
def edgesField : Field V (List Edge) := .withDefault "edges" (Readable.readList Edge.read) []

/-- An optional text as the entries of an object. -/
def textEntry (key : String) : Option String → List (String × Json)
  | some text => [(key, .string text)]
  | none => []

/-- The workflow as a value. -/
def toJson (w : Workflow) : Json :=
  .ofEntries (textEntry "name" w.name ++ textEntry "description" w.description ++ [
    ("nodes", .array (w.nodes.map Node.toJson)), ("edges", .array (w.edges.map Edge.toJson))])

/-- Reads a workflow. -/
def read : V → Decoded Workflow :=
  Record.read "Workflow"
    [nameField.toCheck, descriptionField.toCheck, nodesField.toCheck, edgesField.toCheck]
    fun r => do
      return {
        name := ← r.get nameField
        description := ← r.get descriptionField
        nodes := ← r.get nodesField
        edges := ← r.get edgesField }

end Workflow

end Dataflow
