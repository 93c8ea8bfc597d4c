import Dataflow.Decode.FromJson
import Dataflow.Error

/-!
# Capabilities

A capability is a service known by name. It is reached under a namespace, at one of its routes;
the directory of capabilities tells which there are.
-/

namespace Dataflow

/-- A route of a capability. -/
structure Endpoint where
  method : String
  route : String
  description : String
deriving DecidableEq, Repr

/-- A service known by name. -/
structure Capability where
  name : String
  description : String
  namespacePath : String
  endpoints : List Endpoint
  available : Bool
deriving DecidableEq, Repr

variable {V : Type} [Readable V]

namespace Endpoint

/-- The method of an endpoint that names none. -/
def defaultMethod : String := "POST"

def methodField : Field V String := .withDefault "method" Readable.readString defaultMethod
def routeField : Field V String := .required "route" Readable.readString
def descriptionField : Field V String := .withDefault "description" Readable.readString ""

/-- Reads an endpoint. -/
def read : V → Decoded Endpoint :=
  Record.read "CapabilityEndpoint"
    [methodField.toCheck, routeField.toCheck, descriptionField.toCheck]
    fun r => do
      return {
        method := ← r.get methodField
        route := ← r.get routeField
        description := ← r.get descriptionField }

/-- The endpoint as a value. -/
def toJson (e : Endpoint) : Json :=
  .ofEntries [("method", .string e.method), ("route", .string e.route),
    ("description", .string e.description)]

end Endpoint

namespace Capability

def nameField : Field V String := .withDefault "name" Readable.readString ""
def descriptionField : Field V String := .withDefault "description" Readable.readString ""
def namespaceField : Field V String := .required "namespace" Readable.readString
def endpointsField : Field V (List Endpoint) :=
  .withDefault "endpoints" (Readable.readList Endpoint.read) []
def availableField : Field V Bool := .withDefault "available" Readable.readBool true

/-- Reads a capability. -/
def read : V → Decoded Capability :=
  Record.read "Capability"
    [nameField.toCheck, descriptionField.toCheck, namespaceField.toCheck,
      endpointsField.toCheck, availableField.toCheck]
    fun r => do
      return {
        name := ← r.get nameField
        description := ← r.get descriptionField
        namespacePath := ← r.get namespaceField
        endpoints := ← r.get endpointsField
        available := ← r.get availableField }

/-- The capability as a value. -/
def toJson (c : Capability) : Json :=
  .ofEntries [("name", .string c.name), ("description", .string c.description),
    ("namespace", .string c.namespacePath),
    ("endpoints", .array (c.endpoints.map Endpoint.toJson)), ("available", .bool c.available)]

/-- The endpoint that is called when none is asked for. -/
def defaultEndpoint? (c : Capability) : Option Endpoint := c.endpoints.head?

end Capability

/-- The capabilities there are, by name. -/
abbrev Directory := Keyed Capability

namespace Directory

/-- Enters a capability under its name, in place of one with the same name. -/
def register (d : Directory) (c : Capability) : Directory := Keyed.put d c.name c

/-- The directory of a list of capabilities; each must have a name. -/
def ofList (cs : List Capability) : Except Error Directory :=
  match cs.find? fun c => c.name.isEmpty with
  | some c => .error (.config ("Capability in namespace '" ++ c.namespacePath ++ "' has no name"))
  | none => .ok (cs.foldl register [])

/-- The directory of capabilities listed by name; a name counts more than what the capability
itself says. -/
def ofNamed (entries : List (String × Capability)) : Directory :=
  entries.foldl (fun d (name, c) => register d { c with name }) []

end Directory

end Dataflow
