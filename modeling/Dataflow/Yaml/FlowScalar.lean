import Dataflow.Yaml.Placed
import Dataflow.Text.Hex
import Dataflow.Text.Escape

/-!
# Plain and quoted scalars

A scalar that runs over several lines is folded: the blanks around a line break are dropped, a
single break becomes a space, and of several breaks all but the first stay. Characters are
collected latest first.
-/

namespace Dataflow.Yaml

/-- The blanks and line breaks read since the last other character, latest first. -/
structure Gap where
  spaces : List Char
  firstBreak : Option Char
  moreBreaks : List Char
  crossesLine : Bool

namespace Gap

/-- Nothing between two characters. -/
def empty : Gap := ⟨[], none, [], false⟩

/-- A line break that is escaped, so that it does not count. -/
def escapedBreak : Gap := ⟨[], none, [], true⟩

/-- The gap with one more blank or line break. -/
def push (g : Gap) (c : Char) : Gap :=
  if isBreak c then
    if g.crossesLine then { g with moreBreaks := c :: g.moreBreaks } else ⟨[], some c, [], true⟩
  else if g.crossesLine then g
  else { g with spaces := c :: g.spaces }

/-- Whether there is no gap. -/
def isEmpty (g : Gap) : Bool := g.spaces.isEmpty && !g.crossesLine

/-- What a gap stands for once it is folded, latest first. -/
def folded (g : Gap) : List Char :=
  if g.crossesLine then
    match g.firstBreak with
    | some '\n' => if g.moreBreaks.isEmpty then [' '] else g.moreBreaks
    | some c => g.moreBreaks ++ [c]
    | none => g.moreBreaks
  else g.spaces

end Gap

/-- A scalar that has been read: its characters, latest first, whether it was followed by a line
break, and the rest of the text. -/
structure ScannedScalar where
  text : List Char
  crossesLine : Bool
  rest : List Placed

/-- The signs that have a meaning inside brackets. -/
def flowSigns : List Char := [',', '[', ']', '{', '}']

/-- Whether a plain scalar ends before the next character, which is no blank. -/
def plainEnds (inFlow : Bool) (margin : Nat) (gap : Gap) : List Placed → Bool
  | [] => true
  | p :: rest =>
    documentMarkNext (p :: rest) ||
      (!gap.isEmpty && (p.char == '#' || (!inFlow && p.column < margin))) ||
      (p.char == ':' && blankNext rest) || (inFlow && flowSigns.contains p.char)

/--
A plain scalar. It ends before a comment, a value mark, a document mark, a line that is indented
less than the margin and, inside brackets, before a sign of theirs. A tab may not take the place
of indentation, and inside brackets a colon may not stand before a sign.
-/
def scanPlain (inFlow : Bool) (margin : Nat) (text : List Char) (gap : Gap) :
    List Placed → Option ScannedScalar
  | [] => some ⟨text, gap.crossesLine, []⟩
  | p :: rest =>
    if isBlank p.char || isBreak p.char then
      if gap.crossesLine && p.char == '\t' && p.column < margin then none
      else scanPlain inFlow margin text (gap.push p.char) rest
    else if plainEnds inFlow margin gap (p :: rest) then some ⟨text, gap.crossesLine, p :: rest⟩
    else if inFlow && p.char == ':' && anyNext ('?' :: flowSigns) rest then none
    else scanPlain inFlow margin (p.char :: (gap.folded ++ text)) .empty rest

/-- A scalar in single quotes, after the opening quote; two quotes stand for one. -/
def scanSingleQuoted (text : List Char) (gap : Gap) : List Placed → Option ScannedScalar
  | [] => none
  | p :: rest =>
    if isBlank p.char || isBreak p.char then scanSingleQuoted text (gap.push p.char) rest
    else if documentMarkNext (p :: rest) then none
    else if p.char != '\x27' then scanSingleQuoted (p.char :: (gap.folded ++ text)) .empty rest
    else match rest with
      | [] => some ⟨gap.folded ++ text, false, []⟩
      | q :: rest =>
        if q.char == '\x27' then scanSingleQuoted ('\x27' :: (gap.folded ++ text)) .empty rest
        else some ⟨gap.folded ++ text, false, q :: rest⟩

/-- The character of an escape that is one letter or sign. -/
def escaped? (c : Char) : Option Char :=
  match c with
  | '0' => some '\x00'
  | 'a' => some '\x07'
  | 'b' => some '\x08'
  | 't' => some '\t'
  | '\t' => some '\t'
  | 'n' => some '\n'
  | 'v' => some '\x0b'
  | 'f' => some '\x0c'
  | 'r' => some '\r'
  | 'e' => some '\x1b'
  | ' ' => some ' '
  | '"' => some '"'
  | '/' => some '/'
  | '\\' => some '\\'
  | 'N' => some '\u0085'
  | '_' => some '\u00a0'
  | 'L' => some '\u2028'
  | 'P' => some '\u2029'
  | _ => none

/-- The number of digits of an escape by code point. -/
def escapeDigits? (c : Char) : Option Nat :=
  match c with
  | 'x' => some 2
  | 'u' => some 4
  | 'U' => some 8
  | _ => none

/-- A scalar in double quotes, after the opening quote. -/
def scanDoubleQuoted (escape : Text.Escape) (text : List Char) (gap : Gap) :
    List Placed → Option ScannedScalar
  | [] => none
  | p :: rest =>
    match escape with
    | .digits left value =>
      match Text.hexValue? p.char with
      | none => none
      | some d =>
        if left ≤ 1 then
          match Text.ofCodePoint? (value * 16 + d) with
          | none => none
          | some c => scanDoubleQuoted .none (c :: text) .empty rest
        else scanDoubleQuoted (.digits (left - 1) (value * 16 + d)) text .empty rest
    | .backslash =>
      if isBreak p.char then scanDoubleQuoted .none text .escapedBreak rest
      else match escapeDigits? p.char with
        | some n => scanDoubleQuoted (.digits n 0) text .empty rest
        | none =>
          match escaped? p.char with
          | none => none
          | some c => scanDoubleQuoted .none (c :: text) .empty rest
    | .none =>
      if isBlank p.char || isBreak p.char then
        scanDoubleQuoted .none text (gap.push p.char) rest
      else if documentMarkNext (p :: rest) then none
      else if p.char == '"' then some ⟨gap.folded ++ text, false, rest⟩
      else if p.char == '\\' then scanDoubleQuoted .backslash (gap.folded ++ text) .empty rest
      else scanDoubleQuoted .none (p.char :: (gap.folded ++ text)) .empty rest

end Dataflow.Yaml
