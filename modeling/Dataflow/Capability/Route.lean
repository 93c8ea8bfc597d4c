import Dataflow.Json.Printer
import Dataflow.Text.Percent

/-!
# Routes

A route may hold names in braces, made of ASCII letters, digits and underscores. A name that is a
parameter is replaced by the encoded text of the parameter; the parameter is used up by that.
-/

namespace Dataflow.Route

/-- A piece of a route. -/
inductive Piece where
  | char (c : Char)
  /-- A name in braces. -/
  | slot (name : List Char)
deriving DecidableEq, Repr

/-- Whether a character can be in a name. -/
def isNameChar (c : Char) : Bool := c.isAlphanum || c == '_'

/-- The name in braces at the start of a text, of which the opening brace has been read. -/
def slotAt (s : List Char) : Option (List Char × List Char) :=
  match s.takeWhile isNameChar, s.dropWhile isNameChar with
  | [], _ => none
  | name, '}' :: rest => some (name, rest)
  | _, _ => none

/-- The pieces of a route. -/
def pieces (s : List Char) : List Piece :=
  match s with
  | [] => []
  | c :: rest =>
    match if c == '{' then slotAt rest else none with
    | some (name, after) =>
      if after.length < rest.length then .slot name :: pieces after else .char c :: pieces rest
    | none => .char c :: pieces rest
termination_by s.length

/-- The text of a piece that is not replaced. -/
def Piece.text : Piece → List Char
  | .char c => [c]
  | .slot name => '{' :: (name ++ ['}'])

/-- Fills the pieces from left to right; the text, and the parameters that are left. -/
def fillPieces (params : Fields) : List Piece → List Char × Fields
  | [] => ([], params)
  | .char c :: rest =>
    let (text, left) := fillPieces params rest
    (c :: text, left)
  | .slot name :: rest =>
    let key := String.ofList name
    match Keyed.value? params key with
    | some v =>
      let (text, left) := fillPieces (Keyed.remove params key) rest
      (Text.percentEncode Text.isUnreserved v.plainText.toList ++ text, left)
    | none =>
      let (text, left) := fillPieces params rest
      ((Piece.slot name).text ++ text, left)

/-- Fills a route; the text, and the parameters that are left. -/
def fill (route : String) (params : Fields) : String × Fields :=
  let (text, left) := fillPieces params (pieces route.toList)
  (String.ofList text, left)

end Dataflow.Route
