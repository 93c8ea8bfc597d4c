import Dataflow.Toml.Scalar
import Dataflow.Toml.Text

/-!
# Reading a TOML document

A document is read statement by statement: headers, and keys with their values, each on a line of
its own. Statements are added to the document as they come, so that one that contradicts those
before it makes the text invalid.
-/

namespace Dataflow.Toml

/-- The deepest nesting of arrays and tables between braces, and the longest path. -/
def maxDepth : Nat := 79

/-- The items of an array, after its opening bracket, each read by `item`. -/
def scanItems? (item : List Char → Option (Value × List Char)) (s : List Char) :
    Option (List Value × List Char) :=
  match dropSpace false s with
  | ']' :: rest => some ([], rest)
  | start =>
    match item start with
    | none => none
    | some (v, rest) =>
      match dropSpace false rest with
      | ']' :: rest => some ([v], rest)
      | ',' :: after =>
        if after.length < s.length then do
          let (vs, rest) ← scanItems? item after
          return (v :: vs, rest)
        else none
      | _ => none
termination_by s.length

/-- A key and its value, read by `item`. -/
def scanPair? (item : List Char → Option (Value × List Char)) (s : List Char) :
    Option (List String × String × Value × List Char) := do
  let (path, key, rest) ← scanPath? s
  if maxDepth ≤ path.length then none
  else match rest with
    | '=' :: rest => do
      let (v, rest) ← item (dropBlanks rest)
      return (path, key, v, rest)
    | _ => none

/-- The entries of a table between braces, added to `t`, after the opening brace or a comma. -/
def scanEntries? (item : List Char → Option (Value × List Char)) (t : Table) (s : List Char) :
    Option (Table × List Char) :=
  match scanPair? item s with
  | none => none
  | some (path, key, v, rest) =>
    match t.addEntry path key v, dropBlanks rest with
    | some t, '\x7d' :: rest => some (t, rest)
    | some t, ',' :: after =>
      if after.length < s.length then scanEntries? item t after else none
    | _, _ => none
termination_by s.length

/-- A value that nests at most `depth` levels. -/
def scanValue? (depth : Nat) (s : List Char) : Option (Value × List Char) :=
  match depth, s with
  | 0, '[' :: _ => none
  | 0, '\x7b' :: _ => none
  | depth + 1, '[' :: rest => do
    let (items, rest) ← scanItems? (scanValue? depth) rest
    return (.array items, rest)
  | depth + 1, '\x7b' :: rest =>
    match dropBlanks rest with
    | '\x7d' :: rest => some (.braced [], rest)
    | rest => do
      let (t, rest) ← scanEntries? (scanValue? depth) .empty rest
      return (.braced t.entries, rest)
  | _, '"' :: rest => (scanString? ('"' :: rest)).map fun (t, rest) => (.string t, rest)
  | _, '\x27' :: rest => (scanString? ('\x27' :: rest)).map fun (t, rest) => (.string t, rest)
  | _, s => scanScalar? s

/-- A document in part read, and the table that keys are added to. -/
structure Progress where
  document : Table
  current : List String

namespace Progress

/-- Reads a header, after its opening brackets; `close` is what closes it. -/
def readHeader (p : Progress) (add : Table → List String → String → Option Table)
    (close : List Char → Option (List Char)) (s : List Char) : Option (Progress × List Char) := do
  let (path, key, rest) ← scanPath? s
  if maxDepth ≤ path.length then none
  else
    let rest ← close rest
    return (⟨← add p.document path key, path ++ [key]⟩, ← dropLineEnd rest)

/-- The rest after one closing bracket. -/
def closeOne : List Char → Option (List Char)
  | ']' :: rest => some rest
  | _ => none

/-- The rest after two closing brackets. -/
def closeTwo : List Char → Option (List Char)
  | ']' :: ']' :: rest => some rest
  | _ => none

/-- Reads a key and its value. -/
def readEntry (p : Progress) (s : List Char) : Option (Progress × List Char) := do
  let (path, key, v, rest) ← scanPair? (scanValue? maxDepth) s
  let document ← p.document.alter false (fun t => t.addEntry path key v) p.current
  return ({ p with document }, ← dropLineEnd rest)

/-- Reads a statement. -/
def readStatement (p : Progress) (s : List Char) : Option (Progress × List Char) :=
  match s with
  | '[' :: '[' :: rest => p.readHeader Table.addListed closeTwo rest
  | '[' :: rest => p.readHeader Table.addHeader closeOne rest
  | s => p.readEntry s

/-- Reads the statements of a text. -/
def readAll (p : Progress) (s : List Char) : Option Table :=
  match dropSpace false s with
  | [] => some p.document
  | c :: rest =>
    match p.readStatement (c :: rest) with
    | none => none
    | some (p, after) => if after.length < s.length then p.readAll after else none
termination_by s.length

end Progress

/-- The document written by a text, if the text is valid. -/
def parse? (text : String) : Option Table :=
  let s := match text.toList with
    | '\uFEFF' :: rest => rest
    | s => s
  (⟨.empty, []⟩ : Progress).readAll s

end Dataflow.Toml
