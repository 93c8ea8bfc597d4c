import Dataflow.Path
import Dataflow.Expr.Arithmetic
import Dataflow.Expr.Literal

/-!
# Evaluation

Every text is an expression: what is neither a literal nor a cut nor a path that leads somewhere
stands for itself when it is the whole expression, and for `null` when it is an operand.
-/

namespace Dataflow.Expr

/-- The value of an operator on two values. -/
def Operator.apply : Operator → Json → Json → Json
  | .or, a, b => .bool (a.isTruthy || b.isTruthy)
  | .and, a, b => .bool (a.isTruthy && b.isTruthy)
  | .strictEq, a, b => .bool (strictlyEqual a b)
  | .strictNe, a, b => .bool (!strictlyEqual a b)
  | .eq, a, b => .bool (looselyEqual a b)
  | .ne, a, b => .bool (!looselyEqual a b)
  | .ge, a, b => .bool (precedesOrTies b a)
  | .le, a, b => .bool (precedesOrTies a b)
  | .gt, a, b => .bool (precedes b a)
  | .lt, a, b => .bool (precedes a b)
  | .add, a, b => sum a b
  | .sub, a, b => difference a b
  | .mul, a, b => product a b
  | .div, a, b => quotient a b

/-- The value of a text that is neither a literal nor cut by an operator. -/
def lookUp (context : Fields) (whole : Bool) (s : List Char) : Json :=
  match Fields.at? context s with
  | some v => v
  | none => if whole then .string (String.ofList s) else .null

/-- The value of an expression; `whole` tells an expression that stands alone from an operand. -/
def eval (context : Fields) (whole : Bool) (text : List Char) : Json :=
  let s := Text.trim text
  match literal? s with
  | some v => v
  | none =>
    match h : split? s with
    | some cut =>
      have := length_lt_of_split? h
      have := length_trim_le text
      cut.op.apply (eval context false cut.left) (eval context false cut.right)
    | none => lookUp context whole s
termination_by text.length
decreasing_by all_goals (simp_all only [s]; omega)

end Dataflow.Expr

namespace Dataflow

/-- The value of an expression among named values. -/
def evaluate (expression : String) (context : Fields) : Json :=
  Expr.eval context true expression.toList

end Dataflow
