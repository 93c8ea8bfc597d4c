import Dataflow.Toml.Value
import Dataflow.Decode.Readable
import Dataflow.Json.Number

/-!
# Reading TOML values as typed data

A record is read from a table, or from an array of its fields, of which those beyond the last
field do not count; a time is a record without any of the fields. There is no null, so that a
value that is there is never absent.
-/

namespace Dataflow.Toml.Value

/-- A value, as a mismatch names what it found. -/
def described : Value → String
  | .string s => (Json.string s).described
  | .integer n => "integer `" ++ String.ofList (Number.wholeText n) ++ "`"
  | .float x => "floating point `" ++ positionalText x ++ "`"
  | .bool b => (Json.bool b).described
  | .array _ | .tables _ => "sequence"
  | .datetime | .braced _ | .table _ _ => "map"

/-- The mismatch between a value and the expected type. -/
def mismatch (v : Value) (expected : String) : Mismatch := .invalidType v.described expected

/-- A string; `expected` names what is expected. -/
def readText (expected : String) : Value → Decoded String
  | .string s => .ok s
  | v => .error (v.mismatch expected)

/-- A truth value. -/
def readBool : Value → Decoded Bool
  | .bool b => .ok b
  | v => .error (v.mismatch "a boolean")

/-- A natural number. -/
def readWord : Value → Decoded Nat
  | .integer n =>
    if 0 ≤ n then .ok n.toNat else .error (.invalidValue (integer n).described "u64")
  | v => .error (v.mismatch "u64")

/-- The items of an array, or the tables with one name. -/
def items? : Value → Option (List Value)
  | .array items => some items
  | .tables items => some (items.map fun entries => .table .header entries)
  | _ => none

/-- Items that are each read in the same way. -/
def readList {α : Type} (read : Value → Decoded α) (v : Value) : Decoded (List α) :=
  match v.items? with
  | some items => items.mapM read
  | none => .error (v.mismatch "a sequence")

/-- What a value offers to a record. -/
def members (record : String) (fields : List String) (v : Value) : Decoded (Members Value) :=
  match v with
  | .table _ entries | .braced entries => .ok (.named entries none)
  | .datetime => .ok (.named [] none)
  | v => match v.items? with
    | some items => .ok (.listed (items.take fields.length))
    | none => .error (v.mismatch ("struct " ++ record))

instance : Readable Value where
  readText := readText
  readBool := readBool
  readOption read v := (read v).map some
  readList := readList
  members := members
  skip _ := .ok ()

instance : ReadableNumbers Value where
  readWord := readWord

end Dataflow.Toml.Value
