import Dataflow.Decode.Mismatch
import Dataflow.Decimal.Numeral
import Dataflow.Text.Hex

/-!
# What scalars mean

A quoted scalar is a text. A plain one may also be null, a truth value, an integer or a double;
a sequence of digits that starts with a zero is a text, however. A tag says which of these a
scalar has to be; a tag of the document's own makes it none of them.
-/

namespace Dataflow.Yaml

/-- The value of a scalar. -/
inductive Atom where
  | null
  | bool (value : Bool)
  /-- An integer that fits 128 bits. -/
  | int (value : Int)
  | float (value : Float)
  | text (value : String)

/-- Whether a text is a way to write null. -/
def isNullText (s : String) : Bool := s == "null" || s == "Null" || s == "NULL" || s == "~"

/-- The truth value that a text is a way to write. -/
def readBool? (s : String) : Option Bool :=
  if s == "true" || s == "True" || s == "TRUE" then some true
  else if s == "false" || s == "False" || s == "FALSE" then some false
  else none

/-- The value of a non-empty run of digits of the given base. -/
def readDigits? (base : Nat) (s : List Char) : Option Nat :=
  if s.isEmpty then none
  else s.foldlM (fun n c => do
    let d ← Text.hexValue? c
    if d < base then some (n * base + d) else none) 0

/-- Whether a text is digits, perhaps with a sign, of which the first of several is a zero. -/
def startsWithZero (s : List Char) : Bool :=
  let (_, ds) := Decimal.takeSign s
  match ds with
  | '0' :: d :: rest => (d :: rest).all Char.isDigit
  | _ => false

/-- A magnitude, in hexadecimal, octal, binary or decimal digits. -/
def readMagnitude? (s : List Char) : Option Nat :=
  match s with
  | '0' :: 'x' :: rest => readDigits? 16 rest
  | '0' :: 'o' :: rest => readDigits? 8 rest
  | '0' :: 'b' :: rest => readDigits? 2 rest
  | rest => if startsWithZero rest then none else readDigits? 10 rest

/-- An integer that fits 128 bits, signed or unsigned. -/
def readInt? (s : List Char) : Option Int :=
  let (negative, rest) := Decimal.takeSign s
  match readMagnitude? rest with
  | none => none
  | some n =>
    if negative then (if n ≤ 0x80000000000000000000000000000000 then some (-(n : Int)) else none)
    else if n < 0x100000000000000000000000000000000 then some (n : Int)
    else none

/-- A double, which is finite unless it is written as infinity or as no number. -/
def readFloat? (s : List Char) : Option Float :=
  let (negative, rest) := Decimal.takeSign s
  let word := String.ofList rest
  if word == ".inf" || word == ".Inf" || word == ".INF" then
    some (if negative then -1.0 / 0.0 else 1.0 / 0.0)
  else if s == rest && (word == ".nan" || word == ".NaN" || word == ".NAN") then some (0.0 / 0.0)
  else if rest.head?.any fun c => c == '+' || c == '-' then none
  else Decimal.readFiniteFloat s

/-- The value of a plain scalar without a tag. -/
def Atom.ofPlain (text : String) : Atom :=
  let s := text.toList
  if text.isEmpty || isNullText text then .null
  else match readBool? text with
    | some b => .bool b
    | none =>
      match readInt? s with
      | some n => .int n
      | none =>
        if startsWithZero s then .text text
        else match readFloat? s with
          | some x => .float x
          | none => .text text

/-- The tags that say what a scalar has to be. -/
def typeTag (type : String) : String := "tag:yaml.org,2002:" ++ type

/-- Whether a tag is one of the document's own. -/
def isOwnTag (tag : Option String) : Bool :=
  match tag with
  | some tag => tag.toList.head? == some '!'
  | none => false

/-- The mismatch of a value with a tag of the document's own. -/
def ownTagMismatch : Mismatch := .invalidType "enum" "any valid JSON value"

/-- The value of a scalar. -/
def Atom.ofScalar (tag : Option String) (text : String) (plain : Bool) :
    Except Mismatch Atom :=
  let expecting (atom : Option Atom) (expected : String) : Except Mismatch Atom :=
    match atom with
    | some a => .ok a
    | none => .error (.invalidValue ("string " ++ Text.shown text) expected)
  match tag with
  | none => .ok (if plain then .ofPlain text else .text text)
  | some tag =>
    if isOwnTag (some tag) then .error ownTagMismatch
    else if tag == typeTag "bool" then expecting ((readBool? text).map .bool) "a boolean"
    else if tag == typeTag "int" then expecting ((readInt? text.toList).map .int) "an integer"
    else if tag == typeTag "float" then expecting ((readFloat? text.toList).map .float) "a float"
    else if tag == typeTag "null" then
      expecting (if isNullText text then some .null else none) "null"
    else .ok (.text text)

namespace Atom

/-- An atom, as a mismatch names what it found. -/
def described : Atom → String
  | .null => "unit value"
  | .bool b => (Json.bool b).described
  | .int n => "integer `" ++ String.ofList (Number.wholeText n) ++ "`"
  | .float x => "floating point `" ++ positionalText x ++ "`"
  | .text s => (Json.string s).described

/-- The atom as a JSON value. An infinity becomes null; an integer must fit 64 bits. -/
def toJson : Atom → Except Mismatch Json
  | .null => .ok .null
  | .bool b => .ok (.bool b)
  | .int n =>
    match Number.ofInt? n with
    | some n => .ok (.number n)
    | none => .error (.invalidType (Atom.int n).described "any valid JSON value")
  | .float x => .ok (.ofFloat x)
  | .text s => .ok (.string s)

end Atom

end Dataflow.Yaml
