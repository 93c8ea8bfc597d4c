/-!
# Pieces of a text

Cutting a text at every occurrence of a separator, and joining the pieces again.
-/

namespace Dataflow.Text

/-- The pieces between the occurrences of `sep`; there is always at least one. -/
def splitOn (sep : Char) : List Char → List (List Char)
  | [] => [[]]
  | c :: rest =>
    match splitOn sep rest with
    | [] => [[c]]
    | piece :: more => if c == sep then [] :: piece :: more else (c :: piece) :: more

/-- What stands before and after the first occurrence of `sep`, if there is one. -/
def cutAt (sep : Char) : List Char → Option (List Char × List Char)
  | [] => none
  | c :: rest =>
    if c == sep then some ([], rest)
    else (cutAt sep rest).map fun (before, after) => (c :: before, after)

/-- The rest of the text when it starts with `start`. -/
def dropStart? : (start text : List Char) → Option (List Char)
  | [], text => some text
  | _ :: _, [] => none
  | a :: start, b :: text => if a == b then dropStart? start text else none

/-- What stands before and after the first occurrence of the text `mark`, if there is one. -/
def cutAtText (mark : List Char) : List Char → Option (List Char × List Char)
  | [] => if mark.isEmpty then some ([], []) else none
  | c :: rest =>
    match dropStart? mark (c :: rest) with
    | some after => some ([], after)
    | none => (cutAtText mark rest).map fun (before, after) => (c :: before, after)

/-- The pieces with `sep` between them. -/
def joinWith (sep : String) (pieces : List String) : String :=
  sep.intercalate pieces

end Dataflow.Text
