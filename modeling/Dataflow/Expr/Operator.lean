/-!
# Operators of the expression language

The operators fall into five levels of precedence. At each level the first operator in the list
that fits the text is the one meant, so that `>=` is not read as `>`; the two logical levels and
the comparisons are cut at their leftmost operator, the two arithmetic levels at their rightmost.
-/

namespace Dataflow.Expr

/-- A binary operator. -/
inductive Operator where
  | or | and
  | strictEq | strictNe | eq | ne | ge | le | gt | lt
  | add | sub
  | mul | div
deriving DecidableEq, Repr

/-- How an operator is written. -/
def Operator.symbol : Operator → List Char
  | .or => ['|', '|']
  | .and => ['&', '&']
  | .strictEq => ['=', '=', '=']
  | .strictNe => ['!', '=', '=']
  | .eq => ['=', '=']
  | .ne => ['!', '=']
  | .ge => ['>', '=']
  | .le => ['<', '=']
  | .gt => ['>']
  | .lt => ['<']
  | .add => ['+']
  | .sub => ['-']
  | .mul => ['*']
  | .div => ['/']

/-- Whether the operator counts only between two blanks, so that hyphens in names are none. -/
def Operator.needsBlanks (op : Operator) : Bool := op == .sub

/-- Operators of one precedence. -/
inductive Level where
  | disjunction
  | conjunction
  | comparison
  | additive
  | multiplicative
deriving DecidableEq, Repr

/-- The levels, from the loosest binding to the tightest. -/
def Level.all : List Level :=
  [.disjunction, .conjunction, .comparison, .additive, .multiplicative]

/-- The operators of a level, in the order in which they are tried. -/
def Level.operators : Level → List Operator
  | .disjunction => [.or]
  | .conjunction => [.and]
  | .comparison => [.strictEq, .strictNe, .eq, .ne, .ge, .le, .gt, .lt]
  | .additive => [.add, .sub]
  | .multiplicative => [.mul, .div]

/-- Which of several operators of one level is the outermost. -/
inductive Side where
  | leftmost
  | rightmost
deriving DecidableEq, Repr

/-- Arithmetic groups to the left, everything else to the right. -/
def Level.outermost : Level → Side
  | .disjunction | .conjunction | .comparison => .leftmost
  | .additive | .multiplicative => .rightmost

theorem Operator.symbol_ne_nil (op : Operator) : op.symbol ≠ [] := by
  cases op <;> simp [Operator.symbol]

theorem Operator.symbol_length_pos (op : Operator) : 0 < op.symbol.length := by
  cases op <;> decide

end Dataflow.Expr
