import Dataflow.Json.Basic
import Dataflow.Clock

/-!
# Logs

A log is a list of entries in the order in which they were made, each with the time on the clock
of the run.
-/

namespace Dataflow

/-- How much an entry matters. -/
inductive Level where
  | debug
  | info
  | warn
  | error
deriving DecidableEq, Repr

/-- The name of a level. -/
def Level.name : Level → String
  | .debug => "debug"
  | .info => "info"
  | .warn => "warn"
  | .error => "error"

/-- An entry of a log; `time` is in ticks. -/
structure LogEntry where
  time : Nat
  level : Level
  message : String
  data : Option Json

/-- The entry as a value. -/
def LogEntry.toJson (e : LogEntry) : Json :=
  .ofEntries ([
    ("elapsed_seconds", .ofFloat (Clock.seconds e.time)), ("level", .string e.level.name),
    ("message", .string e.message)] ++
    match e.data with
    | some v => [("data", v)]
    | none => [])

/-- A log, the oldest entry first. -/
abbrev Log := List LogEntry

/-- The log as a value. -/
def Log.toJson (log : Log) : Json := .array (log.map LogEntry.toJson)

end Dataflow
