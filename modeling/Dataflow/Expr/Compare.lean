import Dataflow.Json.Printer
import Dataflow.Text.Blank
import Dataflow.Decimal.Numeral

/-!
# Truth and comparison

`isTruthy` is the truth value of a JSON value. Values are compared as numbers when both are
numbers or numeric strings, and as texts otherwise.
-/

namespace Dataflow

/-- `null`, `false`, zero, the empty text, the text `0` and empty containers are false. -/
def Json.isTruthy : Json → Bool
  | .null => false
  | .bool b => b
  | .number n => n.toFloat != 0.0
  | .string s => s != "" && s != "0"
  | .array items => !items.isEmpty
  | .object fields => !fields.isEmpty

namespace Expr

/-- A value as a number: numbers, and strings that hold a finite numeral between blanks. -/
def asNumber? : Json → Option Float
  | .number n => some n.toFloat
  | .string s => Decimal.readFiniteFloat (Text.trim s.toList)
  | _ => none

/-- A value as a text: strings as they are, `null` as the empty text, the rest as JSON. -/
def display : Json → String
  | .string s => s
  | .null => ""
  | v => v.compact

/-- Equality without conversion, except that integers and doubles are compared by value. -/
def strictlyEqual : Json → Json → Bool
  | .number m, .number n => m.toFloat == n.toFloat
  | a, b => a == b

/-- Whether the value is a truth value. -/
def isBool : Json → Bool
  | .bool _ => true
  | _ => false

/-- Whether both values are `null`. -/
def bothNull : Json → Json → Bool
  | .null, .null => true
  | _, _ => false

/-- Equality with conversion: by truth next to a truth value, else as numbers or texts. -/
def looselyEqual (a b : Json) : Bool :=
  if bothNull a b then true
  else if isBool a || isBool b then a.isTruthy == b.isTruthy
  else match asNumber? a, asNumber? b with
    | some x, some y => x == y
    | _, _ => display a == display b

/-- Whether the first value comes before the second, as numbers or as texts. -/
def precedes (a b : Json) : Bool :=
  match asNumber? a, asNumber? b with
  | some x, some y => x < y
  | _, _ => display a < display b

/-- Whether the first value comes before the second or at the same place. -/
def precedesOrTies (a b : Json) : Bool :=
  match asNumber? a, asNumber? b with
  | some x, some y => x ≤ y
  | _, _ => !(display b < display a : Bool)

end Expr

end Dataflow
