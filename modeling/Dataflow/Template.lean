import Dataflow.Json.Printer
import Dataflow.Path
import Dataflow.Text.Percent

/-!
# Templates

A placeholder is a path between double braces, with ASCII blanks around it at will; the path
itself has neither blanks nor braces. A template is cut into pieces, plain characters and
placeholders, in one pass from left to right, and each placeholder whose path leads somewhere is
replaced by the text of the value it leads to. What a placeholder is replaced by is not read
again.
-/

namespace Dataflow.Template

/-- How substituted texts are written. -/
inductive Encoding where
  /-- As they are. -/
  | plain
  /-- Percent-encoded, as a component of a URL. -/
  | url
deriving DecidableEq, Repr

/-- A piece of a template. -/
inductive Piece where
  /-- A character that stands for itself. -/
  | char (c : Char)
  /-- A placeholder: its whole text and the path in it. -/
  | placeholder (text path : List Char)
deriving DecidableEq, Repr

/-- The blanks allowed next to the braces of a placeholder. -/
def isSpace (c : Char) : Bool := c == ' ' || (9 ≤ c.toNat && c.toNat ≤ 13)

/-- The characters a path in a placeholder is made of. -/
def isPathChar (c : Char) : Bool := c != '{' && c != '}' && !isSpace c

/-- The placeholder whose opening braces have been read, as its path and what follows it. -/
def placeholderBody (s : List Char) : Option (List Char × List Char) :=
  let inner := s.dropWhile isSpace
  let path := inner.takeWhile isPathChar
  match (inner.dropWhile isPathChar).dropWhile isSpace with
  | '}' :: '}' :: rest => if path.isEmpty then none else some (path, rest)
  | _ => none

/-- The placeholder at the start of a text, as its path and what follows it. -/
def placeholderAt : List Char → Option (List Char × List Char)
  | '{' :: '{' :: rest => placeholderBody rest
  | _ => none

/-- The pieces of a template. -/
def pieces (s : List Char) : List Piece :=
  match s with
  | [] => []
  | c :: rest =>
    match placeholderAt (c :: rest) with
    | some (path, after) =>
      if after.length ≤ rest.length then
        .placeholder ((c :: rest).take ((c :: rest).length - after.length)) path :: pieces after
      else .char c :: pieces rest
    | none => .char c :: pieces rest
termination_by s.length

/-- The text of a value in an encoding. -/
def substitution (encoding : Encoding) (v : Json) : List Char :=
  match encoding with
  | .plain => v.plainText.toList
  | .url => Text.percentEncode Text.isUnreserved v.plainText.toList

/-- A piece with its placeholder replaced, if its path leads somewhere. -/
def renderPiece (inputs : Fields) (encoding : Encoding) : Piece → List Char
  | .char c => [c]
  | .placeholder text path =>
    match Fields.at? inputs path with
    | some v => substitution encoding v
    | none => text

/-- A template with its placeholders replaced. -/
def renderChars (inputs : Fields) (encoding : Encoding) (s : List Char) : List Char :=
  (pieces s).flatMap (renderPiece inputs encoding)

/-- A template with its placeholders replaced. -/
def render (template : String) (inputs : Fields) (encoding : Encoding) : String :=
  String.ofList (renderChars inputs encoding template.toList)

mutual

/-- A value with every string in it rendered; keys stay as they are. -/
def renderValue (inputs : Fields) : Json → Json
  | .string s => .string (render s inputs .plain)
  | .array items => .array (renderItems inputs items)
  | .object fields => .object (renderFields inputs fields)
  | .null => .null
  | .bool b => .bool b
  | .number n => .number n

/-- The items of an array, rendered. -/
def renderItems (inputs : Fields) : List Json → List Json
  | [] => []
  | v :: rest => renderValue inputs v :: renderItems inputs rest

/-- The fields of an object, rendered. -/
def renderFields (inputs : Fields) : List (String × Json) → List (String × Json)
  | [] => []
  | (k, v) :: rest => (k, renderValue inputs v) :: renderFields inputs rest

end

end Dataflow.Template
