import Dataflow.Kinds.Handler

/-!
# Loop nodes

A loop node numbers the items of a list, up to a limit.
-/

namespace Dataflow.Kinds

/-- No loop yields more items than this, whatever it is told. -/
def loopCeiling : Nat := 1000

/-- The limit of a loop that is told none. -/
def defaultIterations : Float := 100

/-- The limit for a requested number: its whole part, held between zero and the ceiling. -/
def iterationLimit (requested : Option Float) : Nat :=
  let x := requested.getD defaultIterations
  if x.isNaN || x < 0 then 0
  else if Float.ofNat loopCeiling < x then loopCeiling
  else x.toUInt64.toNat

def maxIterationsField : Field Json (Option Float) :=
  .withDefault "maxIterations" Json.readLenientNumber none

/-- Reads the requested number of iterations off the configuration. -/
def readIterations : Json → Decoded (Option Float) :=
  Record.read "LoopConfig" [maxIterationsField.toCheck] fun r => r.get maxIterationsField

/-- A value as a list of items. -/
def toItems : Option Json → List Json
  | some (.array items) => items
  | some .null => []
  | some v => [v]
  | none => []

/-- An item with its number. -/
def numbered (item : Json) (index : Nat) : Json :=
  .ofEntries [("index", .ofNat index), ("item", item)]

/-- Yields the numbered items of the handle `items`, or else of `input`. -/
def runLoop (config : Json) (inputs : Fields) : Outcome := do
  let requested ← readConfig "Invalid loop config" readIterations config
  let items := toItems ((Fields.present? inputs "items").or (Fields.present? inputs "input"))
  let kept := items.take (iterationLimit requested)
  let output := kept.zipIdx.map fun (item, index) => numbered item index
  return ⟨.ofEntries [("output", .array output), ("count", .ofNat kept.length)],
    .ofEntries [("total_items", .ofNat items.length),
      ("truncated", .bool (kept.length < items.length))]⟩

end Dataflow.Kinds
