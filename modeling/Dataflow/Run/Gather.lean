import Dataflow.Workflow.Graph

/-!
# What edges carry

The values at the input handles of a node are gathered from its incoming edges, one after the
other in declaration order, so that of several edges into a handle the last one that carries a
value counts. A source is looked up among the outputs of nodes first and among the inputs of the
run (its seeds) second.
-/

namespace Dataflow

/-- The value that an edge takes from the value of its source: the entry at its source handle, if
there is one, or else the whole value. -/
def Edge.pick (e : Edge) (v : Json) : Json :=
  match v with
  | .object fields => (Keyed.value? fields e.sourceHandle).getD v
  | v => v

/-- The value of the source of an edge. -/
def Edge.source? (outputs seeds : Fields) (e : Edge) : Option Json :=
  (Keyed.value? outputs e.source).or (Keyed.value? seeds e.source)

/-- Adds what one edge carries, if it carries anything. -/
def Edge.deliver (outputs seeds gathered : Fields) (e : Edge) : Fields :=
  match e.source? outputs seeds with
  | some v => Keyed.put gathered e.targetHandle (e.pick v)
  | none => gathered

/-- The values at the input handles of a node. -/
def Graph.gather (g : Graph) (id : String) (outputs seeds : Fields) : Fields :=
  (g.incoming id).foldl (Edge.deliver outputs seeds) []

end Dataflow
