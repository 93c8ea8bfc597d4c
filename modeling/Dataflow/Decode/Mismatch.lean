import Dataflow.Json.Printer
import Dataflow.Decimal.Shortest
import Dataflow.Text.Quoted

/-!
# Why a value does not have the wanted form

Values of a general format are read as records with named and typed fields. A `Mismatch` is the
first reason found why a value cannot be read.
-/

namespace Dataflow

/-- Why a value cannot be read as a record. -/
inductive Mismatch where
  /-- A field without a default is not there. -/
  | missingField (name : String)
  /-- A field is given twice. -/
  | duplicateField (name : String)
  /-- A value of another type than the expected one. -/
  | invalidType (found expected : String)
  /-- A value of the right type, but out of range. -/
  | invalidValue (found expected : String)
  /-- A list with a wrong number of items. -/
  | invalidLength (length : Nat) (expected : String)
  /-- A mismatch deep inside a value, with the path to it. -/
  | located (path : String) (cause : Mismatch)
  | custom (text : String)
deriving DecidableEq, Repr

namespace Mismatch

/-- The text of a mismatch. -/
def message : Mismatch → String
  | missingField name => "missing field `" ++ name ++ "`"
  | duplicateField name => "duplicate field `" ++ name ++ "`"
  | invalidType found expected => "invalid type: " ++ found ++ ", expected " ++ expected
  | invalidValue found expected => "invalid value: " ++ found ++ ", expected " ++ expected
  | invalidLength length expected =>
    "invalid length " ++ toString length ++ ", expected " ++ expected
  | located path cause => path ++ ": " ++ message cause
  | custom text => text

end Mismatch

/-- A double in positional notation, which always shows a point: the way in which the readers of
formats other than JSON name one. -/
def positionalText (x : Float) : String :=
  let d := Decimal.Dyadic.ofFloat x
  let s := d.shortest
  let body := if 0 ≤ s.exponent then s.positional ++ ['.', '0'] else s.positional
  String.ofList (if d.negative then '-' :: body else body)

/-- A number, as a mismatch names what it found. -/
def Number.described : Number → String
  | .whole n _ => "integer `" ++ String.ofList (Number.wholeText n) ++ "`"
  | .float x _ => "floating point `" ++ String.ofList (Number.floatText x) ++ "`"

/-- A value, as a mismatch names what it found. -/
def Json.described : Json → String
  | .null => "null"
  | .bool true => "boolean `true`"
  | .bool false => "boolean `false`"
  | .number n => n.described
  | .string s => "string " ++ Text.shown s
  | .array _ => "sequence"
  | .object _ => "map"

end Dataflow
