import Dataflow.Decimal.Shortest
import Dataflow.Decimal.Numeral

/-!
# JSON numbers

A number is an integer that fits 64 bits, signed or unsigned, or a finite double; `1` and `1.0`
are different numbers. The text of a double always shows that it is one.
-/

namespace Dataflow

/-- The integers that fit 64 bits, signed or unsigned. -/
def FitsWord (n : Int) : Prop := -0x8000000000000000 ≤ n ∧ n < 0x10000000000000000

instance (n : Int) : Decidable (FitsWord n) := by
  unfold FitsWord; infer_instance

/-- A JSON number. -/
inductive Number where
  | whole (value : Int) (fits : FitsWord value)
  | float (value : Float) (finite : value.isFinite = true)

namespace Number

/-- The integer as a number, if it fits a word. -/
def ofInt? (n : Int) : Option Number :=
  if h : FitsWord n then some (.whole n h) else none

/-- The double as a number, if it is finite. -/
def ofFloat? (x : Float) : Option Number :=
  if h : x.isFinite = true then some (.float x h) else none

/-- The number zero. -/
def zero : Number := .whole 0 (by decide)

instance : Inhabited Number := ⟨zero⟩

/-- A count as a number; a count that fits no word becomes the nearest double. -/
def ofNat (n : Nat) : Number :=
  (ofInt? n).getD ((ofFloat? (Float.ofNat n)).getD zero)

/-- The nearest double. -/
def toFloat : Number → Float
  | .whole n _ => Float.ofInt n
  | .float x _ => x

/-- Equality of integers with integers and of doubles with doubles. -/
def same : Number → Number → Bool
  | .whole m _, .whole n _ => m == n
  | .float x _, .float y _ => x == y
  | _, _ => false

instance : BEq Number := ⟨same⟩

/-- Which doubles are written positionally: the leading digit stands at one of these places. -/
structure FloatLayout where
  firstPlace : Int
  lastPlace : Int

/-- Positional from `10 ^ -5` up to below `10 ^ 16`. -/
def layout : FloatLayout := ⟨-4, 16⟩

/-- The text of a double: positional with a point, or with a signed exponent. -/
def floatText (x : Float) : List Char :=
  let d := Decimal.Dyadic.ofFloat x
  let s := d.shortest
  let ds := Decimal.digitsOf s.digits
  let place : Int := ds.length + s.exponent
  let body :=
    if s.digits == 0 then ['0', '.', '0']
    else if layout.firstPlace ≤ place && place ≤ layout.lastPlace then
      if 0 ≤ s.exponent then s.positional ++ ['.', '0'] else s.positional
    else
      let e := place - 1
      let fraction := if ds.length == 1 then [] else '.' :: ds.drop 1
      ds.take 1 ++ fraction ++ 'e' :: (if e < 0 then '-' else '+') :: Decimal.digitsOf e.natAbs
  if d.negative then '-' :: body else body

/-- The text of an integer. -/
def wholeText (n : Int) : List Char :=
  if n < 0 then '-' :: Decimal.digitsOf n.natAbs else Decimal.digitsOf n.natAbs

/-- The text of a number. -/
def text : Number → List Char
  | .whole n _ => wholeText n
  | .float x _ => floatText x

/-- The powers of ten by which a literal is scaled, as far as doubles hold them. -/
def powerOfTen (n : Nat) : Float := Decimal.nearestFloat 1 n

/--
The value of a literal with significand `f` and decimal exponent `e`, found by one
multiplication or one division by a power of ten. A quotient too deep for one division is first
divided by `10 ^ 308`; a product that overflows is no number.
-/
def scale (f : Float) (e : Int) (fuel : Nat) : Option Float :=
  if 0 ≤ e then
    if e ≤ 308 then
      let r := f * powerOfTen e.toNat
      if r.isInf then none else some r
    else if f == 0.0 then some f
    else none
  else if -308 ≤ e then some (f / powerOfTen (-e).toNat)
  else if f == 0.0 then some f
  else match fuel with
    | 0 => some 0.0
    | fuel + 1 => scale (f / powerOfTen 308) (e + 308) fuel

/-- Appends digits to a significand as long as it fits 64 bits; counts the digits left out. -/
def pushDigits (significand : Nat) : List Char → Nat × Nat
  | [] => (significand, 0)
  | d :: ds =>
    let next := significand * 10 + Decimal.digitValue d
    if next < UInt64.size then pushDigits next ds else (significand, ds.length + 1)

/-- An exponent, held within 32 signed bits. -/
def clampExponent (n : Int) : Int := max (-0x80000000) (min 0x7FFFFFFF n)

/--
The double written by the parts of a literal. Digits that do not fit the 64-bit significand do not
count, but those before the point still shift the exponent.
-/
def ofParts (whole fraction : List Char) (exponent : Int) : Option Float :=
  let (significand, dropped) := pushDigits 0 whole
  let (significand, skipped) := pushDigits significand fraction
  scaled significand ((dropped : Int) - ((fraction.length - skipped : Nat) : Int))
where
  scaled (significand : Nat) (shift : Int) : Option Float :=
    if exponent.natAbs ≥ 0x80000000 then
      if significand != 0 && exponent > 0 then none else some 0.0
    else scale (Float.ofNat significand) (clampExponent (shift + exponent)) 10

/-- The number written by an integer literal. -/
def ofDigits (negative : Bool) (digits : List Char) : Option Number :=
  let n := Decimal.natOfDigits digits
  if negative then
    if 0 < n && n ≤ 0x8000000000000000 then ofInt? (-(n : Int))
    else (ofParts digits [] 0).bind fun x => ofFloat? (-x)
  else if n < UInt64.size then ofInt? n
  else (ofParts digits [] 0).bind ofFloat?

end Number

end Dataflow
