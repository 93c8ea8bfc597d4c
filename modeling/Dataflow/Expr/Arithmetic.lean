import Dataflow.Expr.Compare

/-!
# Arithmetic on values

Operands are coerced to doubles. A result that is a small enough integer is an integer again, so
that `2 + 3` is `5` and not `5.0`.
-/

namespace Dataflow.Expr

/-- A value as an operand: `true` is one, and what is no number is zero. -/
def coerce : Json → Float
  | .bool true => 1.0
  | v => (asNumber? v).getD 0.0

/-- The integer that a double is, if it lies strictly between `-2 ^ 53` and `2 ^ 53`. -/
def smallInteger? (x : Float) : Option Int :=
  if x.abs < 9007199254740992.0 then
    let n := x.toInt64.toInt
    if Float.ofInt n == x then some n else none
  else none

/-- The value of a result; one that is not finite is `null`. -/
def ofResult (x : Float) : Json :=
  match (smallInteger? x).bind Number.ofInt? with
  | some n => .number n
  | none => .ofFloat x

/-- The sum of two values. -/
def sum (a b : Json) : Json := ofResult (coerce a + coerce b)

/-- The difference of two values. -/
def difference (a b : Json) : Json := ofResult (coerce a - coerce b)

/-- The product of two values. -/
def product (a b : Json) : Json := ofResult (coerce a * coerce b)

/-- The quotient of two values; division by zero gives zero. -/
def quotient (a b : Json) : Json :=
  ofResult (if coerce b == 0.0 then 0.0 else coerce a / coerce b)

end Dataflow.Expr
