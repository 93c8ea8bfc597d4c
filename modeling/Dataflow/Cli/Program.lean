import Dataflow.Cli.Arguments
import Dataflow.Settings.Source
import Dataflow.Capability.Source
import Dataflow.Workflow.Source
import Dataflow.Workflow.Check
import Dataflow.Run.Standard
import Dataflow.Run.Report
import Dataflow.Json.Reader

/-!
# The program on the command line

What the program prints and how it ends, given its arguments and what it finds around it: the
files, the variables of the environment, and the network.
-/

namespace Dataflow.Cli

/-- What a program finds around it; `m` is how it looks at files. -/
structure Surroundings (m : Type → Type) where
  /-- The text of the file at a path. -/
  textAt : String → m (Except Error String)
  /-- Whether there is something at a path. -/
  isThere : String → m Bool
  /-- The value of a variable of the environment. -/
  getVariable : String → Option String

/-- Why the program fails: what it says first, and the error behind that. -/
structure Failure where
  message : String
  cause : Option Error

/-- A failure that an error explains by itself. -/
def Failure.ofError (e : Error) : Failure := ⟨e.message, none⟩

/-- A failure in doing something, for an error behind it. -/
def Failure.during (what : String) (e : Error) : Failure := ⟨what, some e⟩

/-- What the program says about a failure. -/
def Failure.text (f : Failure) : String :=
  "Error: " ++ f.message ++ "\n" ++
    match f.cause with
    | some e => "\nCaused by:\n    " ++ e.message ++ "\n"
    | none => ""

/-- How the program ended and what it printed; a run leaves its report. -/
structure Outcome where
  exitCode : Nat
  stdout : String
  stderr : String
  report : Option Report

namespace Outcome

/-- A success. -/
def success (stdout : String) : Outcome := ⟨0, stdout, "", none⟩

/-- A failure after something has been printed. -/
def failure (stdout : String) (f : Failure) : Outcome := ⟨1, stdout, f.text, none⟩

end Outcome

/-- Lines of text. -/
def lines (ls : List String) : String := String.join (ls.map fun l => l ++ "\n")

/-- A name in a column of twelve characters. -/
def column (name : String) : String := name ++ String.ofList (List.replicate (12 - name.length) ' ')

variable {m : Type → Type} [Monad m] {σ : Type}

/-- What a step of the program leads to. -/
abbrev Step (m : Type → Type) (α : Type) := ExceptT Failure m α

/-- Reads a file and makes something of its text. -/
def readAs {α : Type} (s : Surroundings m) (path : String) (read : String → Except Error α)
    (fail : Error → Failure) : Step m α := do
  match (← s.textAt path) >>= read with
  | .ok v => return v
  | .error e => throw (fail e)

/-- The settings for the program. -/
def settings (s : Surroundings m) (config : Option String) : Step m Settings := do
  let written ← match config with
    | some path => readAs s path (Settings.ofFile path) .ofError
    | none => do
      let text ← s.textAt (Settings.defaultPath s.getVariable)
      pure (Settings.ofDefaultFile text.toOption)
  return written.withVariables s.getVariable

/-- The text of the inputs for a run, given by itself or in a file. -/
def inputText (s : Surroundings m) (input inputFile : Option String) : Step m (Option String) :=
  match input, inputFile with
  | some text, _ => return some text
  | none, some path => readAs s path (fun text => .ok (some text)) (.during ("Failed to read " ++ path))
  | none, none => return none

/-- The inputs for a run. -/
def readInputs : Option String → Except Failure Fields
  | none => .ok []
  | some text =>
    match Json.parse? text with
    | none => .error ⟨"Inputs must be valid JSON", none⟩
    | some (.object fields) => .ok fields
    | some v => .error ⟨"Inputs must be a JSON object, got: " ++ v.compact, none⟩

/-- The directory of capabilities in a file. -/
def readDirectory (s : Surroundings m) : Option String → Step m Directory
  | none => return []
  | some path =>
    readAs s path Directory.ofText (.during ("Failed to load capabilities from " ++ path))

/-- Runs a workflow and prints the report. Time passes before the first node, so that a limit of
zero seconds is never kept. -/
def runWorkflow (s : Surroundings m) (transport : Http.Transport σ) (state : σ)
    (settings : Settings) (file : String) (input inputFile capabilities : Option String)
    (timeout : Option Nat) : Step m Outcome := do
  let w ← readAs s file Workflow.ofText (.during ("Failed to load workflow " ++ file))
  let inputs ← readInputs (← inputText s input inputFile)
  let directory ← readDirectory s (match capabilities with
    | some path => some path
    | none => settings.capabilities.registryPath)
  let seconds := timeout.getD settings.executor.timeoutSeconds
  let engine := { Engine.ofSettings settings directory transport with
    limit := Clock.ofSeconds seconds }
  let run := if seconds == 0 then engine.runLate w state else engine.run w inputs state
  let report := run.report w inputs
  return ⟨if report.status == .completed then 0 else 1, report.toJson.indented ++ "\n", "",
    some report⟩

/-- Says whether a workflow is valid, and what may be wrong with it. -/
def validate (s : Surroundings m) (file : String) : Step m Outcome := do
  if !(← s.isThere file) then throw ⟨"File not found: " ++ file, none⟩
  let w ← readAs s file Workflow.ofText .ofError
  match w.check with
  | .error fault => throw (.ofError fault.toError)
  | .ok _ =>
    let capabilities := (w.nodes.filter fun n => !n.kind.isBuiltin).length
    let warnings := w.lint.map fun text => "  ⚠ " ++ text
    return .success (lines ([
      "✓ Workflow '" ++ w.displayName ++ "' is valid", "",
      "  Nodes: " ++ toString w.nodes.length, "  Edges: " ++ toString w.edges.length] ++
      (if capabilities == 0 then []
        else ["  Capability nodes: " ++ toString capabilities ++
          " (requires a capability registry)"]) ++
      (if warnings.isEmpty then [] else "" :: warnings)))

/-- Prints the nodes of a workflow in their order, as far as they have one. -/
def printOrder (s : Surroundings m) (file : String) : Step m Outcome := do
  let w ← readAs s file Workflow.ofText .ofError
  match w.order with
  | .sorted ids => return .success (lines ids)
  | .cyclic ordered blocked =>
    return .failure (lines ordered)
      ⟨"Circular dependency involving: " ++ Text.joinWith ", " blocked, none⟩

/-- Lists the built-in node types. -/
def listTypes : Outcome :=
  let types : Registry Unit := .builtin (Kinds.runHttp false .closed)
  .success (lines ([column "TYPE" ++ " DESCRIPTION", String.ofList (List.replicate 60 '-')] ++
    (types.map fun (name, t) => column name ++ " " ++ t.description) ++
    ["", "Any other type is dispatched to a capability of the same name."]))

/-- Carries out a command. -/
def execute (s : Surroundings m) (transport : Http.Transport σ) (state : σ)
    (settings : Settings) : Command → Step m Outcome
  | .run file input inputFile capabilities timeout =>
    runWorkflow s transport state settings file input inputFile capabilities timeout
  | .validate file => validate s file
  | .order file => printOrder s file
  | .nodes => return listTypes
  | .completions _ => return .success ""

/-- What the program answers when it is asked for its version. -/
def versionText : String := "weft 0.1.0\n"

/-- What the program answers when it is asked for help, or cannot understand its arguments. -/
def helpText : String := lines [
  "DAG workflow execution engine", "", "Usage: weft [OPTIONS] <COMMAND>", "", "Commands:",
  "  run          Execute a workflow and print the result as JSON",
  "  validate     Validate a workflow file",
  "  order        Print the execution order of a workflow",
  "  nodes        List built-in node types",
  "  completions  Generate shell completions"]

/-- The program. -/
def program (s : Surroundings m) (transport : Http.Transport σ) (state : σ)
    (args : List String) : m Outcome := do
  match Request.ofArguments (s.getVariable "WEFT_CONFIG") args with
  | .error .usage => return ⟨2, "", helpText, none⟩
  | .error .help => return .success helpText
  | .error .version => return .success versionText
  | .ok request =>
    let outcome ← (do
      let settings ← settings s request.config
      execute s transport state settings request.command : Step m Outcome).run
    match outcome with
    | .ok outcome => return outcome
    | .error f => return .failure "" f

end Dataflow.Cli
