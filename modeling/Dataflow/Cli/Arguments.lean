import Dataflow.Decimal.Numeral

/-!
# Arguments of the command line

Options may stand before and after the command and its file. An option that takes a value takes
it from the same argument, after an equals sign or right after its letter, or from the next one,
which may not look like an option then. After two dashes no argument is an option.
-/

namespace Dataflow.Cli

/-- What the program is asked to do. -/
inductive Command where
  | run (file : String) (input inputFile capabilities : Option String) (timeout : Option Nat)
  | validate (file : String)
  | order (file : String)
  | nodes
  | completions (shell : String)

/-- A command, and the path of the settings for it. -/
structure Request where
  config : Option String
  command : Command

/-- An option: its name, its letter, and the test of its value if it takes one. -/
structure OptionSpec where
  name : String
  letter : Option Char
  accepts : Option (String → Bool)

/-- Why arguments do not lead to a command: they make no sense, or ask for something else. -/
inductive Halt where
  | usage
  | version
  | help

/-- Arguments in part read: the options given, the other arguments, and the rest after the
command, if one was looked for. -/
structure Parsed where
  options : List (String × String)
  others : List String
  rest : List String

/-- Whether an argument looks like an option. -/
def looksLikeOption (arg : String) : Bool :=
  match arg.toList with
  | '-' :: _ :: _ => true
  | _ => false

/-- The parts of an argument before and after its first equals sign. -/
def splitValue (arg : List Char) : List Char × Option (List Char) :=
  let name := arg.takeWhile (· != '=')
  match arg.dropWhile (· != '=') with
  | _ :: value => (name, some value)
  | [] => (name, none)

/-- The option that an argument gives, with a value in the same argument. A letter of an option
without a value ends the reading, so that what stands right after it does not count. -/
def findOption (specs : List OptionSpec) (arg : String) : Option (OptionSpec × Option String) :=
  match arg.toList with
  | '-' :: '-' :: rest =>
    let (name, value) := splitValue rest
    (specs.find? fun s => s.name == String.ofList name).map fun s => (s, value.map String.ofList)
  | '-' :: letter :: rest =>
    let value := match rest with
      | [] => none
      | '=' :: value => some (String.ofList value)
      | value => some (String.ofList value)
    (specs.find? fun s => s.letter == some letter).map fun s =>
      (s, if s.accepts.isSome then value else none)
  | _ => none

/-- Enters an option, which may be given once. -/
def Parsed.enter (p : Parsed) (spec : OptionSpec) (value : String) : Except Halt Parsed :=
  if (p.options.lookup spec.name).isSome || !(spec.accepts.all fun ok => ok value) then
    .error .usage
  else .ok { p with options := (spec.name, value) :: p.options }

/-- Reads arguments; up to the first that is no option, if that is the command. -/
def readArguments (specs : List OptionSpec) (forCommand : Bool) (p : Parsed) :
    List String → Except Halt Parsed
  | [] => .ok p
  | "--" :: rest => if forCommand then .error .usage else .ok { p with others := p.others ++ rest }
  | arg :: rest =>
    if !looksLikeOption arg then
      if forCommand then .ok { p with others := [arg], rest }
      else readArguments specs forCommand { p with others := p.others ++ [arg] } rest
    else match findOption specs arg with
      | none => .error .usage
      | some (spec, value) =>
        if spec.name == "help" then .error (if value.isNone then .help else .usage)
        else if spec.name == "version" then .error (if value.isNone then .version else .usage)
        else if spec.accepts.isNone then
          if value.isSome then .error .usage
          else match p.enter spec "" with
            | .error halt => .error halt
            | .ok p => readArguments specs forCommand p rest
        else match value, rest with
          | some value, rest =>
            match p.enter spec value with
            | .error halt => .error halt
            | .ok p => readArguments specs forCommand p rest
          | none, [] => .error .usage
          | none, value :: rest =>
            if looksLikeOption value then .error .usage
            else match p.enter spec value with
              | .error halt => .error halt
              | .ok p => readArguments specs forCommand p rest

/-- Whether a text can be a path. -/
def isPath (s : String) : Bool := !s.isEmpty

/-- Whether a text is a number of seconds. -/
def isSeconds (s : String) : Bool := (Decimal.readNatBelow UInt64.size s.toList).isSome

/-- The options of every command. -/
def commonOptions : List OptionSpec :=
  [⟨"json-logs", none, none⟩, ⟨"config", none, some isPath⟩, ⟨"help", some 'h', none⟩]

/-- The options of the command that runs a workflow. -/
def runOptions : List OptionSpec :=
  [⟨"input", some 'i', some fun _ => true⟩, ⟨"input-file", none, some isPath⟩,
    ⟨"capabilities", some 'c', some isPath⟩, ⟨"timeout", some 't', some isSeconds⟩]

/-- The shells for which completions can be asked. -/
def shells : List String := ["bash", "zsh", "fish", "power-shell", "elvish"]

/-- The words that the program takes as its first. -/
def topics : List String := ["run", "validate", "order", "nodes", "completions", "help"]

/-- Whether help can be given on what was asked for: on the program, or on one command. -/
def isHelpTopic : List String → Bool
  | [] => true
  | [name] => topics.contains name
  | _ => false

/-- The command with the given name, options and other arguments. -/
def commandOf (name : String) (p : Parsed) : Option Command :=
  let option (name : String) : Option String := p.options.lookup name
  match name, p.others with
  | "run", [file] =>
    if !isPath file || ((option "input").isSome && (option "input-file").isSome) then none
    else some (.run file (option "input") (option "input-file") (option "capabilities")
      ((option "timeout").bind fun s => Decimal.readNatBelow UInt64.size s.toList))
  | "validate", [file] => if isPath file then some (.validate file) else none
  | "order", [file] => if isPath file then some (.order file) else none
  | "nodes", [] => some .nodes
  | "completions", [shell] => if shells.contains shell then some (.completions shell) else none
  | _, _ => none

/-- Reads the arguments of the program; `fromVariable` is the path of the settings in the
environment, which counts when no argument gives one. -/
def Request.ofArguments (fromVariable : Option String) (args : List String) : Except Halt Request := do
  let before ← readArguments (⟨"version", some 'V', none⟩ :: commonOptions) true ⟨[], [], []⟩ args
  match before.others with
  | [] => .error .usage
  | "help" :: _ => .error (if isHelpTopic before.rest then .help else .usage)
  | name :: _ =>
    let specs := if name == "run" then runOptions ++ commonOptions else commonOptions
    let after ← readArguments specs false ⟨[], [], []⟩ before.rest
    match commandOf name after with
    | none => .error .usage
    | some command =>
      if fromVariable == some "" then .error .usage
      else
        let config := (after.options ++ before.options).lookup "config"
        return ⟨match config with
          | some path => some path
          | none => fromVariable, command⟩

end Dataflow.Cli
