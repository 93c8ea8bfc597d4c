import Dataflow.Workflow.Graph
import Dataflow.Text.Pieces
import Dataflow.Error

/-!
# Checking a workflow

`Workflow.check` finds the first fault that keeps a workflow from being run. `Workflow.lint` lists
what is allowed but may be a mistake: edges that carry nothing, or overwrite each other.
-/

namespace Dataflow

/-- A fault that keeps a workflow from being run. -/
inductive Fault where
  | noNodes
  | emptyId
  | duplicateId (id : String)
  | emptyType (id : String)
  | cycle (blocked : List String)
deriving DecidableEq, Repr

namespace Fault

/-- The text of a fault. -/
def message : Fault → String
  | noNodes => "Workflow has no nodes"
  | emptyId => "Node ID cannot be empty"
  | duplicateId id => "Duplicate node ID: " ++ id
  | emptyType id => "Node '" ++ id ++ "' has empty type"
  | cycle blocked =>
    "Workflow contains a circular dependency involving: " ++ Text.joinWith ", " blocked

/-- The fault as an error. -/
def toError (f : Fault) : Error := .structural f.message

end Fault

/-- What may be a mistake in the wiring of a workflow. -/
inductive Warning where
  /-- The target of the edge is no node. -/
  | noTarget (edge : Edge)
  /-- The source of the edge is no node, so that it must be the name of an input. -/
  | fromInput (edge : Edge)
  /-- Edges from the given sources enter the same handle. -/
  | overwritten (node handle : String) (sources : List String)
deriving DecidableEq, Repr

/-- The text of a warning. -/
def Warning.message : Warning → String
  | noTarget e =>
    "Edge " ++ e.source ++ " -> " ++ e.target ++ " targets a node that does not exist"
  | fromInput e =>
    "Edge " ++ e.source ++ " -> " ++ e.target ++ " reads from '" ++ e.source ++
      "', which must be supplied as an input"
  | overwritten node handle sources =>
    "Handle '" ++ handle ++ "' of node '" ++ node ++ "' is written by " ++
      toString sources.length ++ " edges (" ++ Text.joinWith ", " sources ++
      "); the last one wins"

namespace Workflow

/-- The first fault of the nodes, looked at in declaration order; `seen` holds the identifiers of
the nodes before. -/
def nodeFault (seen : List String) : List Node → Option Fault
  | [] => none
  | n :: rest =>
    if n.id.isEmpty then some .emptyId
    else if seen.contains n.id then some (.duplicateId n.id)
    else if n.type.isEmpty then some (.emptyType n.id)
    else nodeFault (n.id :: seen) rest

/-- The first fault of the nodes of a workflow, its edges left aside. -/
def nodesFault (w : Workflow) : Option Fault :=
  if w.nodes.isEmpty then some .noNodes else nodeFault [] w.nodes

/-- The order in which the nodes of a workflow run, or the first fault. -/
def plan (w : Workflow) : Except Fault (List String) :=
  match w.nodesFault with
  | some fault => .error fault
  | none => match w.order with
    | .sorted order => .ok order
    | .cyclic _ blocked => .error (.cycle blocked)

/-- The first fault of a workflow; it is looked for without a plan being made. -/
def check (w : Workflow) : Except Fault Unit :=
  match w.nodesFault with
  | some fault => .error fault
  | none => match w.order with
    | .sorted _ => .ok ()
    | .cyclic _ blocked => .error (.cycle blocked)

/-- The warnings about one edge. -/
def edgeWarnings (w : Workflow) (e : Edge) : List Warning :=
  (if w.ids.contains e.target then [] else [.noTarget e]) ++
    (if w.ids.contains e.source then [] else [.fromInput e])

/-- The sources of the edges into a handle, in declaration order. -/
def writers (w : Workflow) (target : String × String) : List String :=
  (w.edges.filter fun e => (e.target, e.targetHandle) == target).map Edge.source

/-- The handles that edges enter, each once, in order. -/
def writtenHandles (w : Workflow) : List (String × String) :=
  distinct pairBefore (w.edges.map fun e => (e.target, e.targetHandle))

/-- The warning about a handle that more than one edge enters. -/
def handleWarning (w : Workflow) (target : String × String) : Option Warning :=
  let sources := w.writers target
  if sources.length > 1 then some (.overwritten target.1 target.2 sources) else none

/-- All warnings: those about single edges, in declaration order, then those about handles. -/
def warnings (w : Workflow) : List Warning :=
  w.edges.flatMap w.edgeWarnings ++ w.writtenHandles.filterMap w.handleWarning

/-- The texts of all warnings. -/
def lint (w : Workflow) : List String := w.warnings.map Warning.message

end Workflow

end Dataflow
