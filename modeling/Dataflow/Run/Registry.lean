import Dataflow.Kinds.Handler
import Dataflow.Kinds.Wiring
import Dataflow.Kinds.Decision
import Dataflow.Kinds.Transform
import Dataflow.Kinds.Loop
import Dataflow.Kinds.Delay

/-!
# Registries of node types

A registry holds the handler of every node type that is known, with a description of the type.
-/

namespace Dataflow

/-- The description of a node type that gives none. -/
def defaultDescription : String := "A workflow node"

/-- A node type: what it is for, and its handler. -/
structure NodeType (σ : Type) where
  description : String := defaultDescription
  handler : Handler σ

/-- The node types that are known, by tag. -/
abbrev Registry (σ : Type) := Keyed (NodeType σ)

namespace Registry

variable {σ : Type}

/-- The built-in node types; `http` is the handler for requests. -/
def builtin (http : Handler σ) : Registry σ :=
  Keyed.ofEntries [
    ("input", ⟨"Expose a supplied value or a configured default as output",
      .ofFunction Kinds.runInput⟩),
    ("output", ⟨"Collect a final workflow result",
      .ofFunction fun _ inputs => .ok (Kinds.runOutput inputs)⟩),
    ("transform", ⟨"Transform data (passthrough, json_parse, json_stringify, extract, " ++
        "template, map, filter, reduce)",
      .ofFunction Kinds.runTransform⟩),
    ("condition", ⟨"Evaluate an expression and emit the input on the true or false handle",
      .ofFunction Kinds.runCondition⟩),
    ("loop", ⟨"Emit up to maxIterations indexed items (ceiling 1000)",
      .ofFunction Kinds.runLoop⟩),
    ("merge", ⟨"Combine every incoming handle into a single map",
      .ofFunction fun _ inputs => .ok (Kinds.runMerge inputs)⟩),
    ("split", ⟨"Split a map input into one output handle per key",
      .ofFunction fun _ inputs => .ok (Kinds.runSplit inputs)⟩),
    ("delay", ⟨"Pause for up to 30 seconds, then pass inputs through", Kinds.runDelay⟩),
    ("http", ⟨"Make HTTP requests (GET, POST, PUT, DELETE, PATCH, HEAD)", http⟩),
    ("code", ⟨"Evaluate an expression over the inputs", .ofFunction Kinds.runCode⟩)]

/-- Runs a node of the given type by itself. -/
def run (r : Registry σ) (type : String) : Handler σ :=
  match Keyed.value? r type with
  | some t => t.handler
  | none => fun _ _ state => .pure (.error (.unknownNodeType type)) state

end Registry

end Dataflow
