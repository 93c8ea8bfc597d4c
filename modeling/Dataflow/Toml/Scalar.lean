import Dataflow.Toml.Value
import Dataflow.Decimal.Numeral
import Dataflow.Text.Hex
import Dataflow.Text.Pieces

/-!
# Numbers and times of TOML

Digits may be grouped by single underscores. An integer fits 64 signed bits; a double may be too
great below zero, but not above. Dates and times have to exist.
-/

namespace Dataflow.Toml

/-- Digits without the underscores that group them, each of which has to stand between two. -/
def ungroup? (isDigit : Char → Bool) : List Char → Option (List Char)
  | [] => none
  | [c] => if isDigit c then some [c] else none
  | c :: '_' :: rest =>
    if isDigit c then (ungroup? isDigit rest).map (c :: ·) else none
  | c :: rest => if isDigit c then (ungroup? isDigit rest).map (c :: ·) else none

/-- A natural number in grouped digits of the given base. -/
def readGrouped? (base : Nat) (s : List Char) : Option Nat :=
  let isDigit (c : Char) : Bool := (Text.hexValue? c).any fun d => d < base
  (ungroup? isDigit s).map fun ds =>
    ds.foldl (fun n c => n * base + (Text.hexValue? c).getD 0) 0

/-- A decimal number, which does not start with a zero that could be left out. -/
def readDecimal? (s : List Char) : Option Nat :=
  match s with
  | '0' :: _ :: _ => none
  | s => readGrouped? 10 s

/-- An integer. -/
def readInteger? (s : List Char) : Option Int := do
  let n : Int ← match s with
    | '0' :: 'x' :: rest => (readGrouped? 16 rest).map Int.ofNat
    | '0' :: 'o' :: rest => (readGrouped? 8 rest).map Int.ofNat
    | '0' :: 'b' :: rest => (readGrouped? 2 rest).map Int.ofNat
    | s =>
      let (negative, ds) := Decimal.takeSign s
      (readDecimal? ds).map fun n => if negative then -(n : Int) else n
  if -0x8000000000000000 ≤ n && n < 0x8000000000000000 then some n else none

/-- Whether the character may stand in the digits of a number. -/
def isDigitOrGroup (c : Char) : Bool := c.isDigit || c == '_'

/-- Whether a text is an exponent. -/
def isExponent : List Char → Bool
  | [] => false
  | c :: rest => (c == 'e' || c == 'E') && (ungroup? Char.isDigit (Decimal.takeSign rest).2).isSome

/-- A double: a decimal number with a fraction, an exponent or both, or one of the words. -/
def readFloat? (s : List Char) : Option Float :=
  let (negative, unsigned) := Decimal.takeSign s
  let whole := unsigned.takeWhile isDigitOrGroup
  let rest := unsigned.dropWhile isDigitOrGroup
  let isNumber := (readDecimal? whole).isSome && match rest with
    | '.' :: rest =>
      let exponent := rest.dropWhile isDigitOrGroup
      (ungroup? Char.isDigit (rest.takeWhile isDigitOrGroup)).isSome &&
        (exponent.isEmpty || isExponent exponent)
    | rest => isExponent rest
  if unsigned == ['i', 'n', 'f'] then some (if negative then -1.0 / 0.0 else 1.0 / 0.0)
  else if unsigned == ['n', 'a', 'n'] then some (0.0 / 0.0)
  else if isNumber then
    (Decimal.readFloat (s.filter fun c => c != '_')).filter fun x => !(x.isInf && x > 0)
  else none

/-- The number written by the digits of a text, if these are all it has, and as many as wanted. -/
def fixedDigits? (count : Nat) (s : List Char) : Option Nat :=
  if s.length == count && s.all Char.isDigit then some (Decimal.natOfDigits s) else none

/-- The number of days of a month. -/
def daysIn (year month : Nat) : Nat :=
  if month == 2 then
    if year % 4 == 0 && (year % 100 != 0 || year % 400 == 0) then 29 else 28
  else if month == 4 || month == 6 || month == 9 || month == 11 then 30
  else 31

/-- Whether a text is a date. -/
def isDate (s : List Char) : Bool :=
  match Text.splitOn '-' s with
  | [y, m, d] =>
    match fixedDigits? 4 y, fixedDigits? 2 m, fixedDigits? 2 d with
    | some y, some m, some d => 1 ≤ m && m ≤ 12 && 1 ≤ d && d ≤ daysIn y m
    | _, _, _ => false
  | _ => false

/-- Whether a text is a number of two digits up to a bound. -/
def isPart (bound : Nat) (s : List Char) : Bool := (fixedDigits? 2 s).any fun n => n ≤ bound

/-- Whether a text is a time of a day; a second may have a fraction, and may be a leap second. -/
def isTime (s : List Char) : Bool :=
  match Text.splitOn ':' s with
  | [h, m, s] =>
    let fraction := s.dropWhile Char.isDigit
    let hasFraction := match fraction with
      | [] => true
      | c :: ds => c == '.' && !ds.isEmpty && ds.all Char.isDigit
    isPart 23 h && isPart 59 m && isPart 60 (s.takeWhile Char.isDigit) && hasFraction
  | _ => false

/-- Whether a text is an offset from universal time. -/
def isOffset (s : List Char) : Bool :=
  match Text.splitOn ':' s with
  | [h, m] => isPart 23 h && isPart 59 m
  | _ => false

/-- Whether a text is a time of a day, perhaps with an offset. -/
def isOffsetTime (s : List Char) : Bool :=
  match s.getLast? with
  | some 'Z' => isTime s.dropLast
  | some 'z' => isTime s.dropLast
  | _ =>
    let time := s.takeWhile fun c => c != '+' && c != '-'
    match s.dropWhile fun c => c != '+' && c != '-' with
    | [] => isTime time
    | _ :: offset => isTime time && isOffset offset

/-- Whether a text is a date, a time, or both with a sign between. -/
def isDatetime (s : List Char) : Bool :=
  let date := s.take 10
  match s.drop 10 with
  | [] => isDate date || isTime s
  | c :: time =>
    ((c == 'T' || c == 't' || c == ' ') && isDate date && isOffsetTime time) || isTime s

/-- Whether the character may stand in a number, a time or a word. -/
def isScalarChar (c : Char) : Bool :=
  c.isAlphanum || c == '_' || c == '+' || c == '-' || c == '.' || c == ':'

/-- A number, a time or a truth value. A date and a time may be parted by a single space. -/
def scanScalar? (s : List Char) : Option (Value × List Char) :=
  let word := s.takeWhile isScalarChar
  let rest := s.dropWhile isScalarChar
  let more := match rest with
    | ' ' :: c :: after => if c.isDigit then (c :: after).takeWhile isScalarChar else []
    | _ => []
  if isDate word && !more.isEmpty then
    if isDatetime (word ++ ' ' :: more) then some (.datetime, rest.drop (more.length + 1))
    else none
  else if word == ['t', 'r', 'u', 'e'] then some (.bool true, rest)
  else if word == ['f', 'a', 'l', 's', 'e'] then some (.bool false, rest)
  else if isDatetime word then some (.datetime, rest)
  else match readInteger? word, readFloat? word with
    | some n, _ => some (.integer n, rest)
    | none, some x => some (.float x, rest)
    | none, none => none

end Dataflow.Toml
