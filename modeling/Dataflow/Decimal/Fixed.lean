import Dataflow.Decimal.Shortest

/-!
# A fixed number of decimal places

The exact binary value is rounded to the grid of `10 ^ -places`; a value midway between two
points of the grid goes to the even one.
-/

namespace Dataflow.Decimal

/-- The natural number nearest to `num / den`, the even one of two nearest. -/
def roundHalfEven (num den : Nat) : Nat :=
  let q := num / den
  let r := num % den
  if 2 * r < den then q
  else if den < 2 * r then q + 1
  else if q % 2 == 0 then q else q + 1

/-- The magnitude times `10 ^ places`, rounded to a natural number. -/
def Dyadic.scaledRound (d : Dyadic) (places : Nat) : Nat :=
  let x := Quotient.scaled (d.mantissa * Nat.pow 10 places) 2 d.exponent
  roundHalfEven x.num x.den

/-- A natural number of units of `10 ^ -places` in positional notation. -/
def placesText (units places : Nat) : List Char :=
  let ds := digitsOf units
  let padded := List.replicate (places + 1 - ds.length) '0' ++ ds
  padded.take (padded.length - places) ++ '.' :: padded.drop (padded.length - places)

/-- The double with exactly `places` decimal places (at least one). -/
def fixedText (x : Float) (places : Nat) : String :=
  if x.isNaN then "NaN"
  else if x.isInf then (if x < 0 then "-inf" else "inf")
  else
    let d := Dyadic.ofFloat x
    let body := placesText (d.scaledRound places) places
    String.ofList (if d.negative then '-' :: body else body)

end Dataflow.Decimal
