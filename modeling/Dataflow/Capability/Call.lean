import Dataflow.Capability.Basic
import Dataflow.Json.Printer
import Dataflow.Service

/-!
# Calls of capabilities

What is asked of a capability, and what it answers.
-/

namespace Dataflow

/-- A call of a capability. -/
structure Call where
  capability : String
  namespacePath : String
  route : String
  method : String
  params : Fields

/-- The answer of a capability. -/
structure Reply where
  status : Nat
  body : Json

/-- The call as a value. -/
def Call.toJson (c : Call) : Json :=
  .ofEntries [("capability", .string c.capability), ("namespace", .string c.namespacePath),
    ("route", .string c.route), ("method", .string c.method), ("params", .object c.params)]

namespace Reply

/-- Whether the status is that of an error. -/
def isError (r : Reply) : Bool := 400 ≤ r.status

/-- The text at a key of the body. -/
def bodyText? (r : Reply) (key : String) : Option String :=
  match r.body with
  | .object fields =>
    match Keyed.value? fields key with
    | some (.string s) => some s
    | _ => none
  | _ => none

/-- What an answer says about its error: a text at `message` or `error`, or the whole body. -/
def errorMessage (r : Reply) : String :=
  match (r.bodyText? "message").or (r.bodyText? "error") with
  | some text => text
  | none => if r.body.isNull then "status " ++ toString r.status else r.body.plainText

/-- The answer as a value. -/
def toJson (r : Reply) : Json := .ofEntries [("status", .ofNat r.status), ("body", r.body)]

end Reply

/-- A service that carries calls to capabilities; a status of an error is an answer, too. -/
abbrev Carrier (σ : Type) := Service σ Call (Except Error Reply)

end Dataflow
