import Dataflow.Decode.Mismatch

/-!
# Values that typed data can be read from

What a format must offer so that records, lists, optional values, texts and truth values can be
read from its values. The reading of a type of data is written once, for every such format.
-/

namespace Dataflow

/-- The outcome of reading a value. -/
abbrev Decoded (α : Type) := Except Mismatch α

/-- What a value offers to a record: named members, up to the first whose name cannot be read,
with the reason for that; or a list of items, one per field. -/
inductive Members (V : Type) where
  | named (entries : List (String × V)) (stop : Option Mismatch)
  | listed (items : List V)

/-- The values of a format, and how they are read. -/
class Readable (V : Type) where
  /-- A text; the string names what is expected. -/
  readText (expected : String) : V → Decoded String
  /-- A truth value. -/
  readBool : V → Decoded Bool
  /-- A value that may be absent. -/
  readOption {α : Type} : (V → Decoded α) → V → Decoded (Option α)
  /-- Items that are each read in the same way. -/
  readList {α : Type} : (V → Decoded α) → V → Decoded (List α)
  /-- What a value offers to the record with the given name and field names. -/
  members (record : String) (fields : List String) : V → Decoded (Members V)
  /-- Passes over a value. -/
  skip : V → Decoded Unit

/-- A text. -/
def Readable.readString {V : Type} [Readable V] : V → Decoded String := readText "a string"

/-- A path of a file. -/
def Readable.readPath {V : Type} [Readable V] : V → Decoded String := readText "path string"

/-- A format that has numbers. -/
class ReadableNumbers (V : Type) extends Readable V where
  /-- A natural number below `2 ^ 64`. -/
  readWord : V → Decoded Nat

/-- A format whose values can all be told in JSON. -/
class ReadableAsJson (V : Type) extends Readable V where
  /-- Any value, as JSON. -/
  readAny : V → Decoded Json

end Dataflow
