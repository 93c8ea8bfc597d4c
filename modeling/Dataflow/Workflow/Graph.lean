import Dataflow.Workflow.Basic

/-!
# The order of a graph

A graph is a list of node identifiers with edges. An edge counts for the order if both its ends
are nodes. The nodes are ordered layer by layer: the first layer holds the nodes that no edge
enters, in declaration order; the edges that leave a layer are taken away one by one, and a node
that loses its last incoming edge joins the next layer at that moment. What never loses its last
edge is blocked by a cycle.
-/

namespace Dataflow

/-- Node identifiers, in declaration order, and edges. -/
structure Graph where
  ids : List String
  edges : List Edge

/-- How many edges still enter each node. -/
abbrev Degrees := List (String × Nat)

/-- The outcome of ordering a graph. -/
inductive Order where
  /-- All nodes, each after the sources of its edges. -/
  | sorted (order : List String)
  /-- The nodes that could be ordered, and those that a cycle blocks, in declaration order. -/
  | cyclic (ordered blocked : List String)
deriving DecidableEq, Repr

namespace Graph

/-- The graph of a workflow. -/
def ofWorkflow (w : Workflow) : Graph := ⟨w.ids, w.edges⟩

/-- Whether there is a node with this identifier. -/
def contains (g : Graph) (id : String) : Bool := g.ids.contains id

/-- The edges into a node, in declaration order. -/
def incoming (g : Graph) (id : String) : List Edge :=
  if g.contains id then g.edges.filter fun e => e.target == id else []

/-- The edges out of a node, in declaration order. -/
def outgoing (g : Graph) (id : String) : List Edge :=
  if g.contains id then g.edges.filter fun e => e.source == id else []

/-- The number of edges from nodes into a node. -/
def degree (g : Graph) (id : String) : Nat :=
  ((g.incoming id).filter fun e => g.contains e.source).length

/-- The number of edges into every node, before any is taken away. -/
def degrees (g : Graph) : Degrees := g.ids.map fun id => (id, g.degree id)

end Graph

namespace Degrees

/-- Takes one edge into a node away, wherever the node is listed. -/
def lower (ds : Degrees) (id : String) : Degrees :=
  ds.map fun entry => if entry.1 == id then (entry.1, entry.2 - 1) else entry

/-- Takes edges away one by one; the targets that are left without an edge, in that order. -/
def release (ds : Degrees) : List Edge → Degrees × List String
  | [] => (ds, [])
  | e :: rest =>
    let lowered := lower ds e.target
    let (final, freed) := release lowered rest
    (final, if lowered.lookup e.target == some 0 then e.target :: freed else freed)

end Degrees

namespace Graph

/-- At most `rounds` layers, from a given one on, and the degrees that remain. -/
def layers (g : Graph) (rounds : Nat) (ds : Degrees) (layer : List String) :
    List (List String) × Degrees :=
  match rounds with
  | 0 => ([], ds)
  | rounds + 1 =>
    if layer.isEmpty then ([], ds)
    else
      let (lowered, next) := Degrees.release ds (layer.flatMap g.outgoing)
      let (rest, final) := g.layers rounds lowered next
      (layer :: rest, final)

/-- The nodes that no edge from a node enters. -/
def firstLayer (g : Graph) : List String :=
  g.ids.filter fun id => g.degree id == 0

/-- Orders the nodes. Without a cycle a layer has a walk through all layers before it behind it,
so that there are no more layers than nodes. With distinct identifiers no node is in two layers, so
that the same holds with a cycle. Only where an identifier is repeated and on a cycle can layers
follow each other without end; what is found there in the rounds that are made means nothing. -/
def order (g : Graph) : Order :=
  let (found, left) := g.layers g.ids.length g.degrees g.firstLayer
  let ordered := found.flatten
  if ordered.length < g.ids.length then
    .cyclic ordered (g.ids.filter fun id => (left.lookup id).any (0 < ·))
  else .sorted ordered

end Graph

/-- Orders the nodes of a workflow. -/
def Workflow.order (w : Workflow) : Order := (Graph.ofWorkflow w).order

end Dataflow
