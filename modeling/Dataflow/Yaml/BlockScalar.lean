import Dataflow.Yaml.Placed
import Dataflow.Decimal.Numeral

/-!
# Block scalars

The lines of a block scalar are those indented at least as deep as its first line, or as its
header says. A literal scalar keeps its line breaks; a folded one turns a break between two lines
that start with no blank into a space. The header also says what happens to the breaks at the end.
Characters are collected latest first.
-/

namespace Dataflow.Yaml

/-- What happens to the line breaks at the end of a block scalar. -/
inductive Chomping where
  /-- None stays. -/
  | strip
  /-- The first one stays. -/
  | clip
  /-- All stay. -/
  | keep

/-- The chomping sign, if one comes next. -/
def takeChomping : List Placed → Option Chomping × List Placed
  | [] => (none, [])
  | p :: rest =>
    if p.char == '-' then (some .strip, rest)
    else if p.char == '+' then (some .keep, rest)
    else (none, p :: rest)

/-- The indentation digit, if one comes next; it may not be zero. -/
def takeIndentation : List Placed → Option (Option Nat × List Placed)
  | [] => some (none, [])
  | p :: rest =>
    if p.char == '0' then none
    else if p.char.isDigit then some (some (Decimal.digitValue p.char), rest)
    else some (none, p :: rest)

/-- The header of a block scalar: the sign and the digit, in any order. -/
def scanBlockHeader (s : List Placed) : Option (Chomping × Option Nat × List Placed) := do
  let (chomping, s) := takeChomping s
  let (indentation, s) ← takeIndentation s
  let (chomping, s) :=
    match chomping, indentation with
    | none, some _ => takeChomping s
    | _, _ => (chomping, s)
  return (chomping.getD .clip, indentation, ← dropLineEnd s)

/--
Passes over empty lines and the indentation of the next line, which goes up to column `indent` if
that is known. Answers the greatest column reached, the line breaks, and the rest.
-/
def takeEmptyLines (indent : Option Nat) (deepest : Nat) (breaks : List Char) :
    List Placed → Option (Nat × List Char × List Placed)
  | [] => some (deepest, breaks, [])
  | p :: rest =>
    let inIndentation := indent.all fun n => p.column < n
    if p.char == ' ' && inIndentation then
      takeEmptyLines indent (max deepest (p.column + 1)) breaks rest
    else if p.char == '\t' && inIndentation then none
    else if isBreak p.char then takeEmptyLines indent deepest (p.char :: breaks) rest
    else some (deepest, breaks, p :: rest)

/-- The lines read so far: their characters, the breaks after the last one, and whether it
started with a blank. -/
structure BlockText where
  text : List Char
  firstBreak : Option Char
  moreBreaks : List Char
  startsBlank : Bool

/-- Appends a line to the lines read so far. -/
def BlockText.pushLine (b : BlockText) (isFolded : Bool) (line : List Char) : BlockText :=
  let startsBlank := line.head?.any isBlank
  let text :=
    if isFolded && b.firstBreak == some '\n' && !b.startsBlank && !startsBlank then
      if b.moreBreaks.isEmpty then ' ' :: b.text else b.moreBreaks ++ b.text
    else b.moreBreaks ++ (b.firstBreak.toList ++ b.text)
  ⟨line.reverse ++ text, none, [], startsBlank⟩

/-- The lines at the given indentation. -/
def scanBlockLines (isFolded : Bool) (indent : Nat) (b : BlockText) (s : List Placed) :
    Option (BlockText × List Placed) :=
  match s with
  | [] => some (b, [])
  | p :: rest =>
    if p.column == indent then
      let (line, after) := takeChars (fun c => !isBreak c) (p :: rest)
      let b := b.pushLine isFolded line
      match after with
      | [] => some (b, [])
      | q :: after =>
        match takeEmptyLines (some indent) 0 [] after with
        | none => none
        | some (_, breaks, next) =>
          let b := { b with firstBreak := some q.char, moreBreaks := breaks }
          if next.length ≤ rest.length then scanBlockLines isFolded indent b next else none
    else some (b, p :: rest)
termination_by s.length

/-- What remains of the lines after chomping. -/
def BlockText.chomped (b : BlockText) : Chomping → List Char
  | .strip => b.text
  | .clip => b.firstBreak.toList ++ b.text
  | .keep => b.moreBreaks ++ (b.firstBreak.toList ++ b.text)

/--
A block scalar, after its sign. `margin` is the least column of its lines as far as the collection
around it goes; a digit in the header counts from there.
-/
def scanBlockScalar (isFolded : Bool) (margin : Nat) (s : List Placed) :
    Option (List Char × List Placed) := do
  let (chomping, indentation, s) ← scanBlockHeader s
  let wanted := indentation.map fun n => (margin - 1) + n
  let (deepest, breaks, s) ← takeEmptyLines wanted 0 [] s
  let indent := wanted.getD (max deepest (max margin 1))
  let (b, rest) ← scanBlockLines isFolded indent ⟨[], none, breaks, false⟩ s
  return (b.chomped chomping, rest)

end Dataflow.Yaml
