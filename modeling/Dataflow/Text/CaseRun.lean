/-!
# Runs of letters

Tables of characters are made of ranges. Many letters differ from their counterpart in another case
by the same shift as their neighbours, or as every other neighbour. A table of such runs maps
letters to letters.
-/

namespace Dataflow.Text

/-- Whether a code point lies in one of the ranges. -/
def inRanges (ranges : List (Nat × Nat)) (n : Nat) : Bool :=
  ranges.any fun (first, last) => first ≤ n && n ≤ last

/-- Every `step`-th letter from `first` to `last` is `shift` away from its counterpart. -/
structure CaseRun where
  first : Nat
  last : Nat
  step : Nat
  shift : Int

namespace CaseRun

/-- Whether the run maps the letter. -/
def covers (run : CaseRun) (n : Nat) : Bool :=
  run.first ≤ n && n ≤ run.last && (n - run.first) % run.step == 0

/-- The counterpart of a letter, by the first run that maps it. -/
def shift? (runs : List CaseRun) (c : Char) : Option Char :=
  (runs.find? (·.covers c.toNat)).map fun run => Char.ofNat ((c.toNat : Int) + run.shift).toNat

end CaseRun

end Dataflow.Text
