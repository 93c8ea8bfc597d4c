import Dataflow.Settings.Basic
import Dataflow.Toml.Document
import Dataflow.Toml.Typed
import Dataflow.Decimal.Numeral
import Dataflow.Text.Blank
import Dataflow.Error

/-!
# Where settings come from

Settings are written in TOML. Variables of the environment go before what is written, as far as
they can be read. A file that is asked for has to be there and has to be valid; the file at the
default location does not count unless it is.
-/

namespace Dataflow.Settings

/-- The settings written by a text. -/
def ofText (text : String) : Decoded Settings :=
  match Toml.parse? text with
  | some t => Settings.read (Toml.Value.table t.origin t.entries)
  | none => .error (.custom "TOML parse error")

/-- The number that a variable holds, if it holds one. -/
def variableWord? (text : String) : Option Nat :=
  Decimal.readNatBelow UInt64.size (Text.trim text.toList)

/-- Whether a variable says yes; only letters of ASCII have a small form among those looked for. -/
def saysYes (text : String) : Bool :=
  ["1", "true", "yes"].contains (String.ofList ((Text.trim text.toList).map Char.toLower))

/-- The settings with the variables of the environment taken into account. -/
def withVariables (lookup : String → Option String) (s : Settings) : Settings where
  executor := {
    timeoutSeconds :=
      ((lookup "WEFT_TIMEOUT_SECONDS").bind variableWord?).getD s.executor.timeoutSeconds
    enforceNodeDeadline :=
      ((lookup "WEFT_ENFORCE_NODE_DEADLINE").map saysYes).getD s.executor.enforceNodeDeadline }
  http := { s.http with
    timeoutSeconds :=
      ((lookup "WEFT_HTTP_TIMEOUT_SECONDS").bind variableWord?).getD s.http.timeoutSeconds
    allowInternalUrls :=
      ((lookup "WEFT_ALLOW_INTERNAL_URLS").map saysYes).getD s.http.allowInternalUrls }
  capabilities := { s.capabilities with
    baseUrl := (lookup "WEFT_CAPABILITIES_URL").getD s.capabilities.baseUrl
    registryPath :=
      match lookup "WEFT_CAPABILITIES_REGISTRY" with
      | some path => some path
      | none => s.capabilities.registryPath }

/-- The default location: in the directory for settings that the environment names, or else in the
user's own. -/
def defaultPath (lookup : String → Option String) : String :=
  let directory := match lookup "XDG_CONFIG_HOME", lookup "HOME" with
    | some path, home =>
      if path.toList.head? == some '/' then some path else home.map (· ++ "/.config")
    | none, home => home.map (· ++ "/.config")
  match directory with
  | some path => path ++ "/weft/config.toml"
  | none => ".weft/config.toml"

/-- The settings of the file at the default location, as far as it is valid. -/
def ofDefaultFile (text? : Option String) : Settings :=
  match text?.map ofText with
  | some (.ok s) => s
  | _ => .default

/-- The settings of a file that is asked for by its path. -/
def ofFile (path : String) (text : String) : Except Error Settings :=
  (ofText text).mapError fun m => .config ("Invalid config " ++ path ++ ": " ++ m.message)

end Dataflow.Settings
