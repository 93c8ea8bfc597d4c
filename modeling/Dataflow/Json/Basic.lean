import Dataflow.Json.Number
import Dataflow.Keyed

/-!
# JSON values

A value is a tree. The fields of an object are a keyed collection: in the order of their keys,
each key once.
-/

namespace Dataflow

/-- A JSON value. -/
inductive Json where
  | null
  | bool (value : Bool)
  | number (value : Number)
  | string (value : String)
  | array (items : List Json)
  | object (fields : List (String × Json))
deriving Inhabited

/-- Named values, in the order of their names. -/
abbrev Fields := Keyed Json

namespace Json

mutual

/--
Equality of values. Numbers are equal as `Number.same` says, so that `0.0` equals `-0.0` but `1`
does not equal `1.0`.
-/
def same : Json → Json → Bool
  | .null, .null => true
  | .bool a, .bool b => a == b
  | .number a, .number b => a == b
  | .string a, .string b => a == b
  | .array as, .array bs => sameItems as bs
  | .object as, .object bs => sameFields as bs
  | _, _ => false

/-- Equality of lists of values. -/
def sameItems : List Json → List Json → Bool
  | [], [] => true
  | a :: as, b :: bs => same a b && sameItems as bs
  | _, _ => false

/-- Equality of lists of named values. -/
def sameFields : List (String × Json) → List (String × Json) → Bool
  | [], [] => true
  | (j, a) :: as, (k, b) :: bs => j == k && same a b && sameFields as bs
  | _, _ => false

end

instance : BEq Json := ⟨same⟩

/-- Whether the value is `null`. -/
def isNull : Json → Bool
  | .null => true
  | _ => false

/-- The integer `n` as a value; a count never leaves the range of a word. -/
def ofNat (n : Nat) : Json := .number (.ofNat n)

/-- The double as a value; one that is not finite becomes `null`. -/
def ofFloat (x : Float) : Json :=
  match Number.ofFloat? x with
  | some n => .number n
  | none => .null

/-- An array of strings. -/
def ofStrings (items : List String) : Json := .array (items.map .string)

/-- An object with the given entries. -/
def ofEntries (entries : List (String × Json)) : Json := .object (Keyed.ofEntries entries)

end Json

end Dataflow
