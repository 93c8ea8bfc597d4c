import Dataflow.Decode.Record
import Dataflow.Decimal.Numeral
import Dataflow.Text.Blank

/-!
# Reading JSON values as typed data

The readers of single values, and the members that a JSON value offers to a record: the fields
of an object, or the items of an array.
-/

namespace Dataflow.Json

/-- The mismatch between a value and the expected type. -/
def mismatch (v : Json) (expected : String) : Mismatch := .invalidType v.described expected

/-- Any value. -/
def readAny (v : Json) : Decoded Json := .ok v

/-- A string; `expected` names what is expected. -/
def readText (expected : String) : Json → Decoded String
  | .string s => .ok s
  | v => .error (v.mismatch expected)

/-- A string. -/
def readString : Json → Decoded String := readText "a string"

/-- A truth value. -/
def readBool : Json → Decoded Bool
  | .bool b => .ok b
  | v => .error (v.mismatch "a boolean")

/-- A natural number below `2 ^ 64`. -/
def readWord : Json → Decoded Nat
  | .number (.whole n h) =>
    if 0 ≤ n then .ok n.toNat
    else .error (.invalidValue (Number.whole n h).described "u64")
  | v => .error (v.mismatch "u64")

/-- Named values. -/
def readFields : Json → Decoded Fields
  | .object fields => .ok fields
  | v => .error (v.mismatch "a map")

/-- The items of an array, each read in the same way. -/
def readList {α : Type} (read : Json → Decoded α) : Json → Decoded (List α)
  | .array items => items.mapM read
  | v => .error (v.mismatch "a sequence")

/-- Nothing for `null`, and something for anything else. -/
def readOption {α : Type} (read : Json → Decoded α) : Json → Decoded (Option α)
  | .null => .ok none
  | v => (read v).map some

/-- A number, or a string that holds one between blanks; `null` is no number. -/
def readLenientNumber : Json → Decoded (Option Float)
  | .null => .ok none
  | .number n => .ok (some n.toFloat)
  | .string s =>
    match Decimal.readFloat (Text.trim s.toList) with
    | some x => .ok (some x)
    | none => .error (.custom ("expected a number, got '" ++ s ++ "'"))
  | v => .error (.custom ("expected a number, got " ++ v.compact))

instance : Readable Json where
  readText := readText
  readBool := readBool
  readOption := readOption
  readList := readList
  members record _ := fun
    | .object fields => .ok (.named fields none)
    | .array items => .ok (.listed items)
    | v => .error (v.mismatch ("struct " ++ record))
  skip _ := .ok ()

instance : ReadableNumbers Json where
  readWord := readWord

instance : ReadableAsJson Json where
  readAny := readAny

end Dataflow.Json
