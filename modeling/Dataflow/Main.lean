import Dataflow.Cli.Program

/-!
The command line program: it looks at real files and the real environment, lets no request out,
and takes the time that a run takes.
-/

namespace Dataflow

/-- The text of a file. -/
def readText (path : String) : IO (Except Error String) := do
  try
    return .ok (← IO.FS.readFile path)
  catch
    | .noFileOrDirectory .. => return .error .missingFile
    | e => return .error (.io (toString e))

/-- The variables of the environment that count. -/
def variableNames : List String :=
  ["WEFT_CONFIG", "WEFT_TIMEOUT_SECONDS", "WEFT_ENFORCE_NODE_DEADLINE",
    "WEFT_HTTP_TIMEOUT_SECONDS", "WEFT_ALLOW_INTERNAL_URLS", "WEFT_CAPABILITIES_URL",
    "WEFT_CAPABILITIES_REGISTRY", "XDG_CONFIG_HOME", "HOME"]

/-- Whether there is something at a path, be it a file or not. -/
def isThere (path : String) : IO Bool := do
  try
    let _ ← IO.FS.readFile path
    return true
  catch
    | .noFileOrDirectory .. => return false
    | _ => return true

end Dataflow

open Dataflow

/-- Runs the program. -/
def main (args : List String) : IO UInt32 := do
  let environment ← variableNames.filterMapM fun name => do
    return (← IO.getEnv name).map fun value => (name, value)
  let surroundings : Cli.Surroundings IO := {
    textAt := readText
    isThere := isThere
    getVariable := fun name => environment.lookup name }
  let outcome ← Cli.program surroundings Http.Transport.closed () args
  if let some report := outcome.report then IO.sleep report.ticks.toUInt32
  IO.print outcome.stdout
  IO.eprint outcome.stderr
  return outcome.exitCode.toUInt32
