/-!
# Distinct members in ascending order

A list becomes a set when its members are put into ascending order and each is kept once.
-/

namespace Dataflow

/-- Puts a member into an ascending list of distinct members. -/
def insertDistinct {α : Type} (before : α → α → Bool) (x : α) : List α → List α
  | [] => [x]
  | y :: rest =>
    if before x y then x :: y :: rest
    else if before y x then y :: insertDistinct before x rest
    else y :: rest

/-- The distinct members of a list in ascending order. -/
def distinct {α : Type} (before : α → α → Bool) (xs : List α) : List α :=
  xs.foldr (insertDistinct before) []

/-- The order of texts by code points. -/
def textBefore (a b : String) : Bool := a < b

/-- The order of pairs of texts, the first text first. -/
def pairBefore (a b : String × String) : Bool :=
  textBefore a.1 b.1 || (a.1 == b.1 && textBefore a.2 b.2)

end Dataflow
