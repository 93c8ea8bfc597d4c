import Dataflow.Run.Engine
import Dataflow.Kinds.Http
import Dataflow.Capability.Remote
import Dataflow.Settings.Basic

/-!
# The engine with standard equipment

An engine that knows the built-in node types and reaches capabilities over HTTP, as the settings
say.
-/

namespace Dataflow.Engine

variable {σ : Type}

/-- The engine for the given settings. -/
def ofSettings (s : Settings) (directory : Directory) (transport : Http.Transport σ) :
    Engine σ where
  registry := .builtin (Kinds.runHttp s.http.allowInternalUrls transport)
  directory
  carrier := Remote.carrier s.capabilities.baseUrl transport
  limit := Clock.ofSeconds s.executor.timeoutSeconds
  enforced := s.executor.enforceNodeDeadline

/-- The run whose limit has passed before the first node. -/
def runLate (e : Engine σ) (w : Workflow) (state : σ) : Run σ :=
  match w.plan with
  | .error fault => .rejected fault state
  | .ok [] => .started [] ⟨[], .completed, 0, state⟩
  | .ok (id :: order) => .started (id :: order) ⟨[], .stopped id (e.timeout 0), 0, state⟩

end Dataflow.Engine
