import Dataflow.Json.Basic
import Dataflow.Text.Hex

/-!
# The tokens of a JSON text

Brackets, separators, strings and the atoms that are whole values by themselves. Blanks between
tokens are skipped; anything else that is no token makes the text invalid.
-/

namespace Dataflow.Json

/-- A token of a JSON text. -/
inductive Token where
  | openArray
  | closeArray
  | openObject
  | closeObject
  | colon
  | comma
  | string (value : String)
  | atom (value : Json)

/-- The number written by four hexadecimal digits. -/
def hexUnit? (a b c d : Char) : Option Nat := do
  let a ← Text.hexValue? a
  let b ← Text.hexValue? b
  let c ← Text.hexValue? c
  let d ← Text.hexValue? d
  return ((a * 16 + b) * 16 + c) * 16 + d

/-- The character of an escape that is one letter or sign. -/
def simpleEscape? (c : Char) : Option Char :=
  match c with
  | '"' => some '"'
  | '\\' => some '\\'
  | '/' => some '/'
  | 'b' => some '\x08'
  | 'f' => some '\x0c'
  | 'n' => some '\n'
  | 'r' => some '\r'
  | 't' => some '\t'
  | _ => none

/-- Whether a 16-bit unit opens a surrogate pair. -/
def isHighSurrogate (n : Nat) : Bool := 0xD800 ≤ n && n < 0xDC00

/-- Whether a 16-bit unit closes a surrogate pair. -/
def isLowSurrogate (n : Nat) : Bool := 0xDC00 ≤ n && n < 0xE000

/-- The character of a surrogate pair. -/
def ofSurrogates (high low : Nat) : Char :=
  Char.ofNat (0x10000 + (high - 0xD800) * 0x400 + (low - 0xDC00))

/--
The contents of a string whose opening quote has been read, and what follows the closing quote.
Control characters must be escaped, and surrogates must come in pairs.
-/
def scanString : List Char → Option (List Char × List Char)
  | [] => none
  | '"' :: rest => some ([], rest)
  | '\\' :: 'u' :: a :: b :: c :: d :: '\\' :: 'u' :: e :: f :: g :: h :: rest =>
    match hexUnit? a b c d with
    | none => none
    | some high =>
      if isHighSurrogate high then
        match hexUnit? e f g h with
        | some low =>
          if isLowSurrogate low then
            (scanString rest).map fun (s, rest) => (ofSurrogates high low :: s, rest)
          else none
        | none => none
      else if isLowSurrogate high then none
      else
        (scanString ('\\' :: 'u' :: e :: f :: g :: h :: rest)).map fun (s, rest) =>
          (Char.ofNat high :: s, rest)
  | '\\' :: 'u' :: a :: b :: c :: d :: rest =>
    match hexUnit? a b c d with
    | none => none
    | some n =>
      if isHighSurrogate n || isLowSurrogate n then none
      else (scanString rest).map fun (s, rest) => (Char.ofNat n :: s, rest)
  | '\\' :: c :: rest =>
    match simpleEscape? c with
    | none => none
    | some c => (scanString rest).map fun (s, rest) => (c :: s, rest)
  | c :: rest =>
    if c == '\\' || c.toNat < 0x20 then none
    else (scanString rest).map fun (s, rest) => (c :: s, rest)

/-- An exponent part, if the text starts with one; a mark without digits is invalid. -/
def scanExponent : List Char → Option (Option Int × List Char)
  | [] => some (none, [])
  | c :: rest =>
    if c == 'e' || c == 'E' then
      let (negative, rest) := Decimal.takeSign rest
      let (ds, rest) := Decimal.takeDigits rest
      if ds.isEmpty then none
      else
        let n : Int := Decimal.natOfDigits ds
        some (some (if negative then -n else n), rest)
    else some (none, c :: rest)

/-- A fraction, if the text starts with a point; a point without digits is invalid. -/
def scanFraction : List Char → Option (Option (List Char) × List Char)
  | '.' :: rest =>
    let (ds, rest) := Decimal.takeDigits rest
    if ds.isEmpty then none else some (some ds, rest)
  | rest => some (none, rest)

/--
An unsigned number literal. The integer part is a single zero or starts with another digit. A
literal without fraction and exponent is an integer.
-/
def scanUnsigned (negative : Bool) (s : List Char) : Option (Number × List Char) := do
  let (whole, rest) := match s with
    | '0' :: rest => (['0'], rest)
    | s => Decimal.takeDigits s
  if whole.isEmpty then none
  else
    let (fraction, rest) ← scanFraction rest
    let (exponent, rest) ← scanExponent rest
    match fraction, exponent with
    | none, none => (Number.ofDigits negative whole).map fun n => (n, rest)
    | fraction, exponent =>
      let x ← Number.ofParts whole (fraction.getD []) (exponent.getD 0)
      (Number.ofFloat? (if negative then -x else x)).map fun n => (n, rest)

/-- A number literal. -/
def scanNumber : List Char → Option (Number × List Char)
  | '-' :: rest => scanUnsigned true rest
  | rest => scanUnsigned false rest

/-- Whether the character may stand between tokens. -/
def isSpace (c : Char) : Bool := c == ' ' || c == '\t' || c == '\n' || c == '\r'

/-- The token at the start of a text that starts with no blank. -/
def scanToken : List Char → Option (Token × List Char)
  | '[' :: rest => some (.openArray, rest)
  | ']' :: rest => some (.closeArray, rest)
  | '{' :: rest => some (.openObject, rest)
  | '}' :: rest => some (.closeObject, rest)
  | ':' :: rest => some (.colon, rest)
  | ',' :: rest => some (.comma, rest)
  | '"' :: rest => (scanString rest).map fun (s, rest) => (.string (String.ofList s), rest)
  | 'n' :: 'u' :: 'l' :: 'l' :: rest => some (.atom .null, rest)
  | 't' :: 'r' :: 'u' :: 'e' :: rest => some (.atom (.bool true), rest)
  | 'f' :: 'a' :: 'l' :: 's' :: 'e' :: rest => some (.atom (.bool false), rest)
  | s => (scanNumber s).map fun (n, rest) => (.atom (.number n), rest)

/-- All tokens of a text. -/
def tokens (s : List Char) : Option (List Token) :=
  match s with
  | [] => some []
  | c :: rest =>
    if isSpace c then tokens rest
    else match scanToken (c :: rest) with
      | none => none
      | some (token, after) =>
        if after.length ≤ rest.length then (tokens after).map (token :: ·) else none
termination_by s.length

end Dataflow.Json
