import Dataflow.Run.Engine
import Dataflow.Run.Log

/-!
# Reports

The report of a run says how it ended, what the nodes yielded, and what went wrong; the log tells
the run step by step.
-/

namespace Dataflow

/-- How a run ended, in one word. -/
inductive Status where
  | completed
  | failed
  | timedOut
deriving DecidableEq, Repr

/-- The name of a status. -/
def Status.name : Status → String
  | .completed => "completed"
  | .failed => "failed"
  | .timedOut => "timed_out"

/-- The status of a run that ended with an error. -/
def Status.ofError (e : Error) : Status := if e.kind == .timeout then .timedOut else .failed

/-- What is told of a run. -/
structure Report where
  status : Status
  /-- The results of a completed run. -/
  outputs : Fields
  /-- The values of all nodes that were run to their end. -/
  allOutputs : Fields
  /-- The time the run took, in ticks. -/
  ticks : Nat
  error : Option Error
  /-- Whether the run was started at all. -/
  started : Bool
  order : List String
  log : Log

namespace Visit

/-- The value of a node, unless it failed. -/
def yield? (v : Visit) : Option (String × Json) :=
  match v.outcome with
  | .ok output => some (v.node.id, output.data)
  | .error _ => none

/-- The entries that a visit leaves in the log. -/
def log (v : Visit) : Log :=
  let opening : LogEntry :=
    ⟨v.start, .debug, "Executing node '" ++ v.node.id ++ "' [" ++ v.node.type ++ "]",
      some (.ofEntries [("inputs", .ofStrings (Keyed.keys v.inputs))])⟩
  match v.outcome with
  | .ok output =>
    [opening, ⟨v.finish, .info, "Node '" ++ v.node.id ++ "' completed",
      some (.ofEntries [("node_type", .string v.node.type),
        ("duration_ms", .ofNat (v.finish - v.start)), ("metadata", output.metadata)])⟩]
  | .error error =>
    let e := error.within v.node.id
    [opening, ⟨v.finish, .error, e.message,
      some (.ofEntries [("node_type", .string v.node.type), ("error_code", .string e.code),
        ("error_kind", .string e.kind.name)])⟩]

end Visit

namespace History

variable {σ : Type}

/-- The values of all nodes that were run to their end. -/
def outputs (h : History σ) : Fields := Keyed.ofEntries (h.visits.filterMap Visit.yield?)

end History

/-- The results of a completed run: the values of the output nodes, or, if there are none, that of
the node that was run last. -/
def Workflow.collect (w : Workflow) (order : List String) (outputs : Fields) : Fields :=
  let valueOf (id : String) := (Keyed.value? outputs id).map fun v => (id, v)
  if w.outputIds.isEmpty then
    [("result", (order.getLast?.bind fun id => Keyed.value? outputs id).getD .null)]
  else Keyed.ofEntries (w.outputIds.filterMap valueOf)

namespace Run

variable {σ : Type}

/-- The first entry of the log of a run. -/
def openingEntry (w : Workflow) (seeds : Fields) : LogEntry :=
  ⟨0, .info, "Starting workflow '" ++ w.displayName ++ "'",
    some (.ofEntries [("nodes", .ofNat w.nodes.length), ("edges", .ofNat w.edges.length),
      ("inputs", .ofStrings (Keyed.keys seeds))])⟩

/-- The entries that end a log; a failed node has told its error itself. -/
def closingEntries (results : Fields) (h : History σ) : Log :=
  match h.ending with
  | .completed =>
    [⟨h.finish, .info,
      "Workflow completed in " ++ Decimal.fixedText (Clock.seconds h.finish) 3 ++ "s",
      some (.ofEntries [("outputs", .ofStrings (Keyed.keys results))])⟩]
  | .failed _ => []
  | .stopped before error =>
    [⟨h.finish, .warn, error.message ++ "; stopping before node '" ++ before ++ "'",
      some (.ofEntries [("completed_nodes", .ofNat h.outputs.length)])⟩]

/-- The only entry of the log of a rejected run. -/
def rejection (e : Error) : LogEntry :=
  ⟨0, .error, e.message, some (.ofEntries [("error_code", .string e.code)])⟩

/-- The report of a run. -/
def report (w : Workflow) (seeds : Fields) : Run σ → Report
  | .rejected fault _ =>
    { status := .failed, outputs := [], allOutputs := [], ticks := 0
      error := some fault.toError, started := false, order := []
      log := [rejection fault.toError] }
  | .started order h =>
    let results := w.collect order h.outputs
    let log := openingEntry w seeds :: (h.visits.flatMap Visit.log ++ closingEntries results h)
    let stopped (e : Error) : Report :=
      { status := .ofError e, outputs := [], allOutputs := h.outputs, ticks := h.finish
        error := some e, started := true, order, log }
    match h.ending with
    | .completed =>
      { status := .completed, outputs := results, allOutputs := h.outputs, ticks := h.finish
        error := none, started := true, order, log }
    | .failed e => stopped e
    | .stopped _ e => stopped e

end Run

namespace Report

/-- The node that failed, if one did. -/
def failedNode (r : Report) : Option String := r.error.bind Error.node?

/-- The values that a run yielded before it was ended by an error, if it was started. -/
def partialOutputs (r : Report) : Option Fields :=
  if r.started && r.error.isSome then some r.allOutputs else none

/-- What a report says about an error. -/
def errorEntries (r : Report) : List (String × Json) :=
  match r.error with
  | none => []
  | some e =>
    [("error", .string e.message), ("error_kind", .string e.kind.name),
      ("error_code", .string e.code)] ++
    (match r.failedNode with
      | some id => [("failed_node", .string id)]
      | none => []) ++
    (match r.partialOutputs with
      | some outputs => [("partial_outputs", .object outputs)]
      | none => [])

/-- The report as a value. -/
def toJson (r : Report) : Json :=
  .ofEntries ([
    ("success", .bool (r.status == .completed)), ("status", .string r.status.name),
    ("outputs", .object r.outputs), ("all_outputs", .object r.allOutputs),
    ("execution_time", .ofFloat (Clock.seconds r.ticks)),
    ("order", .ofStrings r.order), ("log", Log.toJson r.log)] ++ r.errorEntries)

end Report

end Dataflow
