import Dataflow.Run.Gather
import Dataflow.Run.Registry
import Dataflow.Kinds.Capability
import Dataflow.Workflow.Check

/-!
# Runs

An engine runs the nodes of a workflow one after the other, in the order of its graph. What a run
did is kept as the list of its visits to nodes; outputs, log, metrics and report are read off
from that history.

The time limit of an engine is looked at before every node. An engine may enforce it on the nodes,
too: then a node that would end after the limit is cut off at the limit.
-/

namespace Dataflow

/-- All that a run depends on, apart from the workflow and its inputs. -/
structure Engine (σ : Type) where
  registry : Registry σ
  directory : Directory
  carrier : Carrier σ
  /-- The time limit, in ticks. -/
  limit : Nat
  /-- Whether nodes are cut off at the limit. -/
  enforced : Bool

/-- A node that was started: what it was given, when it started and ended, and its outcome. -/
structure Visit where
  node : Node
  inputs : Fields
  start : Nat
  finish : Nat
  /-- Whether there was a handler to run. -/
  handled : Bool
  outcome : Outcome

/-- How a run ended. -/
inductive Ending where
  /-- All nodes were run. -/
  | completed
  /-- The node visited last failed. -/
  | failed (error : Error)
  /-- The limit had passed before this node was started. -/
  | stopped (before : String) (error : Error)

/-- What a run did. -/
structure History (σ : Type) where
  visits : List Visit
  ending : Ending
  /-- The time at the end. -/
  finish : Nat
  state : σ

namespace Engine

variable {σ : Type}

/-- The handler of a node: that of its type if it is registered, or else, unless the type is
built in, the call of a capability. -/
def handler? (e : Engine σ) (n : Node) : Option (Handler σ) :=
  match Keyed.value? e.registry n.type with
  | some t => some t.handler
  | none => match n.kind with
    | .capability name => some (Kinds.runCapability e.directory e.carrier name)
    | _ => none

/-- The error of a run that has taken too long. -/
def timeout (e : Engine σ) (now : Nat) : Error :=
  .timeout (Clock.seconds now) (Clock.seconds e.limit)

/-- Cuts a node that was started in time off at the limit. All the time that a handler takes counts
as waiting, in which it can be cut off: a handler that worked past the limit without a pause would
be left to finish, and is not told from one that waits. -/
def cutOff (e : Engine σ) (start : Nat) (effect : Effect σ Outcome) : Effect σ Outcome :=
  if e.enforced && start + effect.ticks > e.limit then
    { effect with value := .error (e.timeout e.limit), ticks := e.limit - start }
  else effect

/-- Runs a node. -/
def visit (e : Engine σ) (n : Node) (inputs : Fields) (start : Nat) (state : σ) : Visit × σ :=
  match e.handler? n with
  | none => (⟨n, inputs, start, start, false, .error (.unknownNodeType n.type)⟩, state)
  | some handler =>
    let effect := e.cutOff start (handler n.config inputs state)
    (⟨n, inputs, start, start + effect.ticks, true, effect.value⟩, effect.state)

/-- Runs nodes one after the other; `outputs` holds the values of the nodes before. Time passes in
handlers only. So where nodes are cut off at the limit, the limit has never passed between two
nodes, and a run is stopped there only if nodes are left to take their time. -/
def walk (e : Engine σ) (g : Graph) (seeds : Fields) :
    List Node → (outputs : Fields) → (now : Nat) → σ → History σ
  | [], _, now, state => ⟨[], .completed, now, state⟩
  | n :: rest, outputs, now, state =>
    if now > e.limit then ⟨[], .stopped n.id (e.timeout now), now, state⟩
    else
      let (v, state) := e.visit n (g.gather n.id outputs seeds) now state
      match v.outcome with
      | .error error => ⟨[v], .failed (error.within n.id), v.finish, state⟩
      | .ok output =>
        let h := e.walk g seeds rest (Keyed.put outputs n.id output.data) v.finish state
        { h with visits := v :: h.visits }

end Engine

/-- The node with an identifier. -/
def Workflow.node? (w : Workflow) (id : String) : Option Node :=
  w.nodes.find? fun n => n.id == id

/-- A run: refused for a fault of the workflow, or carried out in an order. -/
inductive Run (σ : Type) where
  | rejected (fault : Fault) (state : σ)
  | started (order : List String) (history : History σ)

namespace Run

/-- The state of the services after the run. -/
def state {σ : Type} : Run σ → σ
  | .rejected _ state => state
  | .started _ history => history.state

end Run

/-- Runs a workflow on the given inputs. -/
def Engine.run {σ : Type} (e : Engine σ) (w : Workflow) (seeds : Fields) (state : σ) : Run σ :=
  match w.plan with
  | .error fault => .rejected fault state
  | .ok order =>
    .started order
      (e.walk (Graph.ofWorkflow w) seeds (order.filterMap w.node?) [] 0 state)

end Dataflow
