/-!
# Services

A service answers requests and takes time for it. It is a function of its state, so that what a
run does is determined by the state it starts from; `σ` is the type of that state.
-/

namespace Dataflow

/-- What a service did: its answer, the time it took, and the state it is left in. -/
structure Effect (σ α : Type) where
  value : α
  ticks : Nat
  state : σ

namespace Effect

variable {σ α β : Type}

/-- An answer that takes no time and changes nothing. -/
def pure (value : α) (state : σ) : Effect σ α := ⟨value, 0, state⟩

/-- The effect with another answer. -/
def map (f : α → β) (e : Effect σ α) : Effect σ β := ⟨f e.value, e.ticks, e.state⟩

end Effect

/-- A service with requests of type `α` and answers of type `β`. -/
abbrev Service (σ α β : Type) := α → σ → Effect σ β

end Dataflow
