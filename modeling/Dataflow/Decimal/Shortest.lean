/-!
# The shortest decimal of a binary fraction

A finite double is `m · 2 ^ q` with natural `m`. The reals that round to it form an interval
around it, closed when `m` is even. Among the decimals in that interval we want one with the
fewest digits, and of those the nearest to the double. For a given number of digits only the two
neighbours of the double on that decimal grid can be in the interval, so one exact test per
number of digits, from 1 to 17, decides.
-/

namespace Dataflow.Decimal

/-- The decimal `digits · 10 ^ exponent`. -/
structure Scientific where
  digits : Nat
  exponent : Int
deriving DecidableEq, Repr

/-- The magnitude `mantissa · 2 ^ exponent` of a finite double, with its sign. -/
structure Dyadic where
  negative : Bool
  mantissa : Nat
  exponent : Int
  /-- Whether the gap to the next smaller double is half the gap to the next larger one. -/
  narrowBelow : Bool
deriving DecidableEq, Repr

/-- Reads the sign, the mantissa and the exponent off the bits of a finite double. -/
def Dyadic.ofFloat (x : Float) : Dyadic :=
  let bits := x.toBits.toNat
  let biased := bits / 0x10000000000000 % 0x800
  let fraction := bits % 0x10000000000000
  { negative := bits / 0x8000000000000000 == 1
    mantissa := if biased == 0 then fraction else fraction + 0x10000000000000
    exponent := if biased == 0 then -1074 else Int.ofNat biased - 1075
    narrowBelow := fraction == 0 && biased > 1 }

/-- A non-negative rational, written as a quotient. -/
structure Quotient where
  num : Nat
  den : Nat

/-- `n · base ^ e` as a quotient. -/
def Quotient.scaled (n base : Nat) (e : Int) : Quotient :=
  if 0 ≤ e then ⟨n * base.pow e.toNat, 1⟩ else ⟨n, base.pow (-e).toNat⟩

/-- The order of the quotients' values. -/
def Quotient.le (a b : Quotient) : Bool := a.num * b.den ≤ b.num * a.den

/-- The strict order of the quotients' values. -/
def Quotient.lt (a b : Quotient) : Bool := a.num * b.den < b.num * a.den

/-- The number of decimal digits of a positive number. -/
def digitCount (n : Nat) : Nat := (Nat.toDigits 10 n).length

/-- The position of the leading digit: `10 ^ (k - 1) ≤ x < 10 ^ k` for a positive double `x`. -/
def magnitude (x : Quotient) : Int :=
  ((digitCount (x.num * Nat.pow 10 400 / x.den) : Nat) : Int) - 400

/-- Removes the trailing zeros of the digits. -/
def Scientific.normalize (d : Scientific) (fuel : Nat) : Scientific :=
  match fuel with
  | 0 => d
  | fuel + 1 =>
    if d.digits != 0 && d.digits % 10 == 0 then
      Scientific.normalize ⟨d.digits / 10, d.exponent + 1⟩ fuel
    else d

/-- The point of the grid of step `10 ^ e` nearest to `x` among those that round to `x`. -/
def nearestOnGrid (x low high : Quotient) (closed : Bool) (e : Int) : Option Nat :=
  let unit := Quotient.scaled 1 10 e
  let below := x.num * unit.den / (x.den * unit.num)
  let inside (c : Nat) : Bool :=
    let point := Quotient.scaled c 10 e
    if closed then low.le point && point.le high else low.lt point && point.lt high
  match inside below, inside (below + 1) with
  | false, false => none
  | true, false => some below
  | false, true => some (below + 1)
  | true, true =>
    -- twice the distance of `below`, against one step of the grid
    let twice : Quotient := ⟨2 * x.num, x.den⟩
    let middle := Quotient.scaled (2 * below + 1) 10 e
    if twice.lt middle then some below
    else if middle.lt twice then some (below + 1)
    else some (if below % 2 == 0 then below else below + 1)

/-- The shortest decimal that reads back as the given dyadic magnitude. -/
def Dyadic.shortest (d : Dyadic) : Scientific :=
  if d.mantissa == 0 then ⟨0, 0⟩
  else
    let e := d.exponent - 2
    let x := Quotient.scaled (4 * d.mantissa) 2 e
    let low := Quotient.scaled (4 * d.mantissa - if d.narrowBelow then 1 else 2) 2 e
    let high := Quotient.scaled (4 * d.mantissa + 2) 2 e
    let closed := d.mantissa % 2 == 0
    let k := magnitude x
    let tries := (List.range 17).findSome? fun n =>
      let grid := k - Int.ofNat n - 1
      (nearestOnGrid x low high closed grid).map fun c => Scientific.mk c grid
    match tries with
    | some found => found.normalize 20
    | none => ⟨0, 0⟩

/-- The digits of a natural number. -/
def digitsOf (n : Nat) : List Char := Nat.toDigits 10 n

/-- Positional notation: all digits written out, with a point only if there is a fraction. -/
def Scientific.positional (d : Scientific) : List Char :=
  let ds := digitsOf d.digits
  if 0 ≤ d.exponent then ds ++ List.replicate d.exponent.toNat '0'
  else
    let places := (-d.exponent).toNat
    if places < ds.length then
      ds.take (ds.length - places) ++ '.' :: ds.drop (ds.length - places)
    else '0' :: '.' :: (List.replicate (places - ds.length) '0' ++ ds)

end Dataflow.Decimal
