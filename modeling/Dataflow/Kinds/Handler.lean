import Dataflow.Json.Basic
import Dataflow.Error
import Dataflow.Service
import Dataflow.Decode.FromJson

/-!
# Handlers

A handler does the work of the nodes of one type. It is given the configuration of the node and
the values at its input handles.
-/

namespace Dataflow

/-- What a node yields: the value that its edges read from, and remarks for the log. -/
structure Output where
  data : Json
  metadata : Json

namespace Output

/-- An output without remarks. -/
def ofData (data : Json) : Output := ⟨data, .object []⟩

/-- An output that holds a value at the handle `output`. -/
def single (v : Json) : Output := ofData (.ofEntries [("output", v)])

end Output

/-- The outcome of a node. -/
abbrev Outcome := Except Error Output

/-- The work of the nodes of one type, with services of state `σ` at hand. -/
abbrev Handler (σ : Type) := (config : Json) → (inputs : Fields) → σ → Effect σ Outcome

/-- A handler that needs no service and takes no time. -/
def Handler.ofFunction {σ : Type} (f : Json → Fields → Outcome) : Handler σ :=
  fun config inputs state => .pure (f config inputs) state

/-- The value at a handle; `null` counts as none. -/
def Fields.present? (inputs : Fields) (handle : String) : Option Json :=
  (Keyed.value? inputs handle).filter fun v => !v.isNull

/-- The value at the handle `input`, or else the object of all inputs. -/
def Fields.primary (inputs : Fields) : Json := (Fields.present? inputs "input").getD (.object inputs)

/-- Reads a configuration; a mismatch is an error of the node, after the given words. -/
def readConfig {α : Type} (words : String) (read : Json → Decoded α) (config : Json) :
    Except Error α :=
  (read config).mapError fun m => .node (words ++ ": " ++ m.message)

end Dataflow
