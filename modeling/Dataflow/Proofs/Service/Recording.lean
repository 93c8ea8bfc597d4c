import Dataflow.Kinds.Handler

/-!
# Records of requests

What is asked of a service cannot be seen in its answers. So that it can be told, a service is
given a list beside its state, on which it notes every request (`Service.recorded`). Everything
else that works with the state leaves the list as it is (`Handler.beside`).
-/

namespace Dataflow

variable {σ ρ α β : Type}

/-- The effect with a record beside the state. -/
def Effect.beside (e : Effect σ α) (record : ρ) : Effect (σ × ρ) α :=
  ⟨e.value, e.ticks, (e.state, record)⟩

/-- The service that notes its requests, the latest one last. -/
def Service.recorded (service : Service σ α β) : Service (σ × List α) α β :=
  fun request s => (service request s.1).beside (s.2 ++ [request])

/-- The handler that has a record beside its state and leaves it as it is. -/
def Handler.beside (handler : Handler σ) : Handler (σ × ρ) :=
  fun config inputs s => (handler config inputs s.1).beside s.2

end Dataflow
