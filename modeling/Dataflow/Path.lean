import Dataflow.Json.Basic
import Dataflow.Text.Blank
import Dataflow.Text.Pieces
import Dataflow.Decimal.Numeral
import Dataflow.Decimal.Shortest

/-!
# Paths into values

A path such as `user.tags[0]` is a list of segments: keys between dots, and keys or indices in
brackets. `Path.parse` reads the segments off a text, `Path.walk` follows them into a value.
-/

namespace Dataflow

/-- One step of a path: into the field of an object or the item of an array. -/
inductive Segment where
  | key (name : String)
  | index (position : Nat)
deriving DecidableEq, Repr

/-- A path as the list of its steps. -/
abbrev Path := List Segment

namespace Path

/-- Reads an index: digits that fit 64 bits, with an optional plus sign. -/
def readIndex (s : List Char) : Option Nat := Decimal.readNatBelow UInt64.size s

/-- Whether the character is a quotation mark. -/
def isQuote (c : Char) : Bool := c == '"' || c == '\''

/-- The segment written in brackets: blanks, then quotation marks, are stripped from it. -/
def bracketSegment (inner : List Char) : Option Segment :=
  let inner := Text.stripWhile isQuote (Text.trim inner)
  match readIndex inner with
  | some n => some (.index n)
  | none => if inner.isEmpty then none else some (.key (String.ofList inner))

/-- The segments of a text that consists of bracket groups only. -/
def bracketSegments (s : List Char) : Option Path :=
  match s with
  | [] => some []
  | '[' :: rest =>
    match Text.cutAt ']' rest with
    | none => none
    | some (inner, after) =>
      if after.length < rest.length + 1 then do
        let segment ← bracketSegment inner
        let more ← bracketSegments after
        return segment :: more
      else none
  | _ :: _ => none
termination_by s.length

/-- The segments of the text between two dots: a key, bracket groups, or both. -/
def partSegments (part : List Char) : Option Path :=
  let key := part.takeWhile (· != '[')
  let brackets := part.dropWhile (· != '[')
  if key.isEmpty then
    if brackets.isEmpty then none else bracketSegments brackets
  else (bracketSegments brackets).map fun more => .key (String.ofList key) :: more

/-- The segments of a path. Blanks around it are ignored; a blank path has no segments. -/
def parse (text : List Char) : Option Path :=
  let text := Text.trim text
  if text.isEmpty then some []
  else ((Text.splitOn '.' text).mapM partSegments).map List.flatten

/-- Takes one step into a value. An index names a field by its digits, a key that is an index
names an item. -/
def step (v : Json) : Segment → Option Json
  | .key name =>
    match v with
    | .object fields => Keyed.value? fields name
    | .array items => (readIndex name.toList).bind fun n => items[n]?
    | _ => none
  | .index n =>
    match v with
    | .object fields => Keyed.value? fields (String.ofList (Decimal.digitsOf n))
    | .array items => items[n]?
    | _ => none

/-- Follows the steps into a value. -/
def walk (v : Json) (path : Path) : Option Json := path.foldlM step v

end Path

/-- What a path leads to in a value; the empty path leads to the value itself. -/
def Json.at? (v : Json) (path : List Char) : Option Json :=
  (Path.parse path).bind (Path.walk v)

/-- What a path leads to among named values; its first segment must be a key. -/
def Fields.at? (fields : Fields) (path : List Char) : Option Json :=
  match Path.parse path with
  | some (.key name :: rest) => (Keyed.value? fields name).bind fun v => Path.walk v rest
  | _ => none

end Dataflow
