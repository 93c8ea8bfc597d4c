import Dataflow.Text.Escape
import Dataflow.Text.Hex

/-!
# Strings, keys and blanks of TOML

Basic strings have escapes, literal ones do not; both may be written over several lines between
three quotes. A key is a bare word or a string on one line; a dotted key is a path.
-/

namespace Dataflow.Toml

/-- Whether the character may stand in a comment or a string as itself. -/
def isTextChar (c : Char) : Bool := c == '\t' || (0x20 ≤ c.toNat && c.toNat != 0x7F)

/-- Whether the character is a space or a tab. -/
def isBlank (c : Char) : Bool := c == ' ' || c == '\t'

/-- Whether the character may stand in a bare key. -/
def isBareChar (c : Char) : Bool := c.isAlphanum || c == '_' || c == '-'

/-- The rest after blanks. -/
def dropBlanks (s : List Char) : List Char := s.dropWhile isBlank

/-- The rest after a comment, if there is one. -/
def dropComment : List Char → List Char
  | '#' :: rest => rest.dropWhile isTextChar
  | s => s

/-- The rest after a line break, if there is one. -/
def dropBreak? : List Char → Option (List Char)
  | '\n' :: rest => some rest
  | '\r' :: '\n' :: rest => some rest
  | _ => none

/-- The rest after the line, of which only blanks and a comment may be left. -/
def dropLineEnd (s : List Char) : Option (List Char) :=
  match dropComment (dropBlanks s) with
  | [] => some []
  | rest => dropBreak? rest

/-- The rest after blanks, line breaks and comments. -/
def dropSpace (inComment : Bool) : List Char → List Char
  | [] => []
  | '\n' :: rest => dropSpace false rest
  | '\r' :: '\n' :: rest => dropSpace false rest
  | c :: rest =>
    if inComment then (if isTextChar c then dropSpace true rest else c :: rest)
    else if isBlank c then dropSpace false rest
    else if c == '#' then dropSpace true rest
    else c :: rest

/-- The character of an escape that is one letter or sign. -/
def escaped? (c : Char) : Option Char :=
  match c with
  | 'b' => some '\x08'
  | 't' => some '\t'
  | 'n' => some '\n'
  | 'f' => some '\x0c'
  | 'r' => some '\r'
  | '"' => some '"'
  | '\\' => some '\\'
  | _ => none

/-- The number of digits of an escape by code point. -/
def escapeDigits? (c : Char) : Option Nat :=
  match c with
  | 'u' => some 4
  | 'U' => some 8
  | _ => none

/-- What a character does within an escape: it goes on, or ends with a character. -/
def stepEscape (left value : Nat) (c : Char) : Option (Text.Escape × Option Char) := do
  let value := value * 16 + (← Text.hexValue? c)
  if left ≤ 1 then return (.none, some (← Text.ofCodePoint? value))
  else return (.digits (left - 1) value, none)

/-- A basic string, after the opening quote; its characters latest first. -/
def scanBasic (escape : Text.Escape) (text : List Char) : List Char → Option (List Char × List Char)
  | [] => none
  | c :: rest =>
    match escape with
    | .digits left value =>
      match stepEscape left value c with
      | none => none
      | some (escape, d) => scanBasic escape (d.toList ++ text) rest
    | .backslash =>
      match escapeDigits? c, escaped? c with
      | some n, _ => scanBasic (.digits n 0) text rest
      | none, some d => scanBasic .none (d :: text) rest
      | none, none => none
    | .none =>
      if c == '"' then some (text, rest)
      else if c == '\\' then scanBasic .backslash text rest
      else if isTextChar c then scanBasic .none (c :: text) rest
      else none

/-- A literal string, after the opening quote; its characters latest first. -/
def scanLiteral (text : List Char) : List Char → Option (List Char × List Char)
  | [] => none
  | c :: rest =>
    if c == '\x27' then some (text, rest)
    else if isTextChar c then scanLiteral (c :: text) rest
    else none

/-- What a string of several lines is in the midst of. -/
inductive Midst where
  | text
  | escape (e : Text.Escape)
  /-- A backslash with only blanks after it, which must be followed by a line break. -/
  | escapedBlank
  /-- The blanks and line breaks after an escaped line break. -/
  | escapedBreak

/-- What three quotes are followed by: up to two of them belong to the string. -/
def closeQuotes? (quote : Char) : List Char → Option (Nat × List Char)
  | a :: b :: c :: d :: e :: rest =>
    if a == quote && b == quote && c == quote then
      if d != quote then some (0, d :: e :: rest)
      else if e != quote then some (1, e :: rest)
      else some (2, rest)
    else none
  | a :: b :: c :: rest =>
    if a == quote && b == quote && c == quote then
      match rest with
      | d :: rest => if d == quote then some (1, rest) else some (0, d :: rest)
      | [] => some (0, [])
    else none
  | _ => none

/-- A basic string of several lines, after the opening quotes; its characters latest first. -/
def scanBasicLines (midst : Midst) (text : List Char) :
    List Char → Option (List Char × List Char)
  | [] => none
  | c :: rest =>
    match midst with
    | .escape (.digits left value) =>
      match stepEscape left value c with
      | none => none
      | some (.none, d) => scanBasicLines .text (d.toList ++ text) rest
      | some (escape, d) => scanBasicLines (.escape escape) (d.toList ++ text) rest
    | .escape _ =>
      if isBlank c then scanBasicLines .escapedBlank text rest
      else if c == '\n' then scanBasicLines .escapedBreak text rest
      else if c == '\r' then
        (if rest.head? == some '\n' then scanBasicLines .escapedBlank text rest else none)
      else match escapeDigits? c, escaped? c with
        | some n, _ => scanBasicLines (.escape (.digits n 0)) text rest
        | none, some d => scanBasicLines .text (d :: text) rest
        | none, none => none
    | .escapedBlank =>
      if isBlank c then scanBasicLines .escapedBlank text rest
      else if c == '\n' then scanBasicLines .escapedBreak text rest
      else if c == '\r' && rest.head? == some '\n' then scanBasicLines .escapedBlank text rest
      else none
    | .escapedBreak =>
      if isBlank c || c == '\n' || (c == '\r' && rest.head? == some '\n') then
        scanBasicLines .escapedBreak text rest
      else plain text c rest
    | .text => plain text c rest
where
  /-- A character that stands for itself, opens an escape or closes the string. -/
  plain (text : List Char) (c : Char) (rest : List Char) : Option (List Char × List Char) :=
    match closeQuotes? '"' (c :: rest) with
    | some (n, rest) => some (List.replicate n '"' ++ text, rest)
    | none =>
      if c == '\\' then scanBasicLines (.escape .backslash) text rest
      else if c == '\r' && rest.head? == some '\n' then scanBasicLines .text text rest
      else if isTextChar c || c == '\n' then scanBasicLines .text (c :: text) rest
      else none

/-- A literal string of several lines, after the opening quotes; its characters latest first. -/
def scanLiteralLines (text : List Char) : List Char → Option (List Char × List Char)
  | [] => none
  | c :: rest =>
    match closeQuotes? '\x27' (c :: rest) with
    | some (n, rest) => some (List.replicate n '\x27' ++ text, rest)
    | none =>
      if c == '\r' && rest.head? == some '\n' then scanLiteralLines text rest
      else if isTextChar c || c == '\n' then scanLiteralLines (c :: text) rest
      else none

/-- The rest after a line break right behind the opening quotes, which does not count. -/
def dropFirstBreak (s : List Char) : List Char := (dropBreak? s).getD s

/-- A string of any kind. -/
def scanString? (s : List Char) : Option (String × List Char) :=
  let scanned := match s with
    | '"' :: '"' :: '"' :: rest => scanBasicLines .text [] (dropFirstBreak rest)
    | '"' :: rest => scanBasic .none [] rest
    | '\x27' :: '\x27' :: '\x27' :: rest => scanLiteralLines [] (dropFirstBreak rest)
    | '\x27' :: rest => scanLiteral [] rest
    | _ => none
  scanned.map fun (text, rest) => (String.ofList text.reverse, rest)

/-- A key that is no path. -/
def scanKey? (s : List Char) : Option (String × List Char) :=
  match s with
  | '"' :: rest => (scanBasic .none [] rest).map fun (t, r) => (String.ofList t.reverse, r)
  | '\x27' :: rest => (scanLiteral [] rest).map fun (t, r) => (String.ofList t.reverse, r)
  | s =>
    let word := s.takeWhile isBareChar
    if word.isEmpty then none else some (String.ofList word, s.dropWhile isBareChar)

/-- A key as a path, with the last part by itself; blanks may stand around the points. -/
def scanPath? (s : List Char) : Option (List String × String × List Char) :=
  match scanKey? (dropBlanks s) with
  | none => none
  | some (key, rest) =>
    match dropBlanks rest with
    | '.' :: after =>
      if after.length < s.length then do
        let (path, last, rest) ← scanPath? after
        return (key :: path, last, rest)
      else none
    | rest => some ([], key, rest)
termination_by s.length

end Dataflow.Toml
