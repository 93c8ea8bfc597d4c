/-!
# Reading numerals

A decimal numeral is a sign, digits with at most one point among or beside them, and an optional
exponent; the words for infinity and for "not a number" are read too. The value is the double
nearest to the written number.
-/

namespace Dataflow.Decimal

/-- The value of a decimal digit. -/
def digitValue (c : Char) : Nat := c.toNat - '0'.toNat

/-- The number written by a list of decimal digits. -/
def natOfDigits (ds : List Char) : Nat := ds.foldl (fun n c => n * 10 + digitValue c) 0

/-- The double nearest to `mantissa · 10 ^ exponent`. -/
def nearestFloat (mantissa : Nat) (exponent : Int) : Float :=
  if mantissa == 0 then 0.0
  else
    -- beyond these bounds the nearest double is infinity or zero whatever the digits are
    let size := ((Nat.toDigits 10 mantissa).length : Int) + exponent
    if size > 310 then 1.0 / 0.0
    else if size < -330 then 0.0
    else if 0 ≤ exponent then Float.ofScientific (mantissa * Nat.pow 10 exponent.toNat) false 0
    else Float.ofScientific mantissa true (-exponent).toNat

/-- A sign, if there is one, and the rest of the text. -/
def takeSign : List Char → Bool × List Char
  | '-' :: rest => (true, rest)
  | '+' :: rest => (false, rest)
  | rest => (false, rest)

/-- The digits at the start of the text, and the rest. -/
def takeDigits (s : List Char) : List Char × List Char :=
  (s.takeWhile Char.isDigit, s.dropWhile Char.isDigit)

/-- An exponent part, which must be the whole text; the empty text is the exponent zero. -/
def readExponent : List Char → Option Int
  | [] => some 0
  | c :: rest =>
    if c == 'e' || c == 'E' then
      let (negative, rest) := takeSign rest
      let (ds, rest) := takeDigits rest
      if ds.isEmpty || !rest.isEmpty then none
      else
        let n : Int := natOfDigits ds
        some (if negative then -n else n)
    else none

/-- An unsigned decimal numeral as mantissa and exponent. -/
def readUnsigned (s : List Char) : Option (Nat × Int) :=
  let (whole, rest) := takeDigits s
  let (fraction, rest) :=
    match rest with
    | '.' :: rest => takeDigits rest
    | rest => ([], rest)
  if whole.isEmpty && fraction.isEmpty then none
  else (readExponent rest).map fun e =>
    (natOfDigits (whole ++ fraction), e - fraction.length)

/-- The magnitude written by an unsigned numeral or by one of the words. -/
def readMagnitude (s : List Char) : Option Float :=
  match s.map Char.toLower with
  | ['i', 'n', 'f'] => some (1.0 / 0.0)
  | ['i', 'n', 'f', 'i', 'n', 'i', 't', 'y'] => some (1.0 / 0.0)
  | ['n', 'a', 'n'] => some (0.0 / 0.0)
  | _ => (readUnsigned s).map fun (mantissa, exponent) => nearestFloat mantissa exponent

/-- The double that a numeral denotes; the whole text must be the numeral. -/
def readFloat (s : List Char) : Option Float :=
  let (negative, rest) := takeSign s
  (readMagnitude rest).map fun x => if negative then -x else x

/-- `readFloat` restricted to finite values. -/
def readFiniteFloat (s : List Char) : Option Float :=
  (readFloat s).filter Float.isFinite

/-- A non-empty run of decimal digits below `bound`, with an optional plus sign in front. -/
def readNatBelow (bound : Nat) (s : List Char) : Option Nat :=
  let ds := match s with
    | '+' :: rest => rest
    | rest => rest
  if ds.isEmpty || !ds.all Char.isDigit then none
  else
    let n := natOfDigits ds
    if n < bound then some n else none

/-- An integer that fits 64 signed bits, with an optional sign in front. -/
def readInt64 (s : List Char) : Option Int :=
  let (negative, ds) := takeSign s
  if ds.isEmpty || !ds.all Char.isDigit then none
  else
    let n : Int := natOfDigits ds
    let v := if negative then -n else n
    if -0x8000000000000000 ≤ v && v < 0x8000000000000000 then some v else none

end Dataflow.Decimal
