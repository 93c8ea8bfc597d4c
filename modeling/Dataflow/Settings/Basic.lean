import Dataflow.Decode.Record

/-!
# Settings

The settings of the program: how long runs and requests may take, what may be asked, and where
capabilities are. A section that is given takes the place of its default as a whole; variables of
the environment go before the sections.
-/

namespace Dataflow

/-- How workflows are run. -/
structure ExecutorSettings where
  timeoutSeconds : Nat
  enforceNodeDeadline : Bool

/-- How requests are made. -/
structure HttpSettings where
  timeoutSeconds : Nat
  connectTimeoutSeconds : Nat
  allowInternalUrls : Bool

/-- Where capabilities are. -/
structure CapabilitySettings where
  baseUrl : String
  registryPath : Option String
  timeoutSeconds : Nat

/-- All settings. -/
structure Settings where
  executor : ExecutorSettings
  http : HttpSettings
  capabilities : CapabilitySettings

variable {V : Type} [ReadableNumbers V]

namespace ExecutorSettings

def timeoutField : Field V Nat := .withDefault "timeout_seconds" ReadableNumbers.readWord 300
def enforceField : Field V Bool := .withDefault "enforce_node_deadline" Readable.readBool false

/-- Reads the section. -/
def read : V → Decoded ExecutorSettings :=
  Record.read "ExecutorConfig" [timeoutField.toCheck, enforceField.toCheck] fun r => do
    return {
      timeoutSeconds := ← r.get timeoutField
      enforceNodeDeadline := ← r.get enforceField }

/-- The section when it is not given. -/
def default : ExecutorSettings := ⟨300, false⟩

/-- The section as a value. -/
def toJson (s : ExecutorSettings) : Json :=
  .ofEntries [("timeout_seconds", .ofNat s.timeoutSeconds),
    ("enforce_node_deadline", .bool s.enforceNodeDeadline)]

end ExecutorSettings

namespace HttpSettings

def timeoutField : Field V Nat := .withDefault "timeout_seconds" ReadableNumbers.readWord 30
def connectTimeoutField : Field V Nat :=
  .withDefault "connect_timeout_seconds" ReadableNumbers.readWord 10
def allowInternalField : Field V Bool := .withDefault "allow_internal_urls" Readable.readBool false

/-- Reads the section. -/
def read : V → Decoded HttpSettings :=
  Record.read "HttpConfig"
    [timeoutField.toCheck, connectTimeoutField.toCheck, allowInternalField.toCheck]
    fun r => do
      return {
        timeoutSeconds := ← r.get timeoutField
        connectTimeoutSeconds := ← r.get connectTimeoutField
        allowInternalUrls := ← r.get allowInternalField }

/-- The section when it is not given. -/
def default : HttpSettings := ⟨30, 10, false⟩

/-- The section as a value. -/
def toJson (s : HttpSettings) : Json :=
  .ofEntries [("timeout_seconds", .ofNat s.timeoutSeconds),
    ("connect_timeout_seconds", .ofNat s.connectTimeoutSeconds),
    ("allow_internal_urls", .bool s.allowInternalUrls)]

end HttpSettings

namespace CapabilitySettings

/-- The base URL of capabilities when none is given. -/
def defaultBaseUrl : String := "http://localhost:8080/api"

def baseUrlField : Field V String := .withDefault "base_url" Readable.readString defaultBaseUrl
def registryPathField : Field V (Option String) :=
  .withDefault "registry_path" (Readable.readOption Readable.readPath) none
def timeoutField : Field V Nat := .withDefault "timeout_seconds" ReadableNumbers.readWord 60

/-- Reads the section. -/
def read : V → Decoded CapabilitySettings :=
  Record.read "CapabilitiesConfig"
    [baseUrlField.toCheck, registryPathField.toCheck, timeoutField.toCheck]
    fun r => do
      return {
        baseUrl := ← r.get baseUrlField
        registryPath := ← r.get registryPathField
        timeoutSeconds := ← r.get timeoutField }

/-- The section when it is not given. -/
def default : CapabilitySettings := ⟨defaultBaseUrl, none, 60⟩

/-- The section as a value. -/
def toJson (s : CapabilitySettings) : Json :=
  .ofEntries [("base_url", .string s.baseUrl),
    ("registry_path", (s.registryPath.map Json.string).getD .null),
    ("timeout_seconds", .ofNat s.timeoutSeconds)]

end CapabilitySettings

namespace Settings

def executorField : Field V ExecutorSettings :=
  .withDefault "executor" ExecutorSettings.read .default
def httpField : Field V HttpSettings := .withDefault "http" HttpSettings.read .default
def capabilitiesField : Field V CapabilitySettings :=
  .withDefault "capabilities" CapabilitySettings.read .default

/-- Reads settings. -/
def read : V → Decoded Settings :=
  Record.read "Config"
    [executorField.toCheck, httpField.toCheck, capabilitiesField.toCheck]
    fun r => do
      return {
        executor := ← r.get executorField
        http := ← r.get httpField
        capabilities := ← r.get capabilitiesField }

/-- The settings when nothing is given. -/
def default : Settings := ⟨.default, .default, .default⟩

/-- The settings as a value. -/
def toJson (s : Settings) : Json :=
  .ofEntries [("executor", s.executor.toJson), ("http", s.http.toJson),
    ("capabilities", s.capabilities.toJson)]

end Settings

end Dataflow
