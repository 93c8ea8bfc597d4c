/-!
# The nodes of a YAML document

A document is a tree of nodes. A node may have a tag, and an anchor by which an alias elsewhere
refers to it. Of a document that breaks off, the part before that place is kept, with `broken`
where the next node or its key would be.
-/

namespace Dataflow.Yaml

/-- What is said about a node before it: the number of its anchor, and its tag. -/
structure Properties where
  anchor : Option Nat
  tag : Option String
deriving DecidableEq, Repr

/-- A node of a document. -/
inductive Node where
  | scalar (props : Properties) (text : String) (plain : Bool)
  | sequence (props : Properties) (items : List Node)
  | mapping (props : Properties) (entries : List (Node × Node))
  | alias (anchor : Nat)
  /-- The root of a text without a document. -/
  | absent
  | broken
deriving Inhabited, Repr

namespace Node

/-- The node that stands where none is written. -/
def empty (props : Properties) : Node := .scalar props "" true

mutual

/-- The nodes with an anchor, in the order in which they start. -/
def anchored : Node → List (Nat × Node)
  | .scalar props text plain => (props.anchor.map fun a => (a, scalar props text plain)).toList
  | .sequence props items =>
    (props.anchor.map fun a => (a, sequence props items)).toList ++ anchoredItems items
  | .mapping props entries =>
    (props.anchor.map fun a => (a, mapping props entries)).toList ++ anchoredEntries entries
  | .alias _ => []
  | .absent => []
  | .broken => []

/-- `anchored` for the items of a sequence. -/
def anchoredItems : List Node → List (Nat × Node)
  | [] => []
  | n :: rest => anchored n ++ anchoredItems rest

/-- `anchored` for the entries of a mapping. -/
def anchoredEntries : List (Node × Node) → List (Nat × Node)
  | [] => []
  | (k, v) :: rest => anchored k ++ (anchored v ++ anchoredEntries rest)

end

mutual

/-- Whether the node is there as a whole; what an alias refers to does not count. -/
def isWhole : Node → Bool
  | .sequence _ items => areWhole items
  | .mapping _ entries => entriesAreWhole entries
  | .broken => false
  | _ => true

/-- `isWhole` for the items of a sequence. -/
def areWhole : List Node → Bool
  | [] => true
  | n :: rest => isWhole n && areWhole rest

/-- `isWhole` for the entries of a mapping. -/
def entriesAreWhole : List (Node × Node) → Bool
  | [] => true
  | (k, v) :: rest => isWhole k && isWhole v && entriesAreWhole rest

end

mutual

/-- The number of scalars, aliases and ends of collections. -/
def size : Node → Nat
  | .sequence _ items => itemsSize items + 2
  | .mapping _ entries => entriesSize entries + 2
  | .broken => 0
  | _ => 1

/-- `size` for the items of a sequence. -/
def itemsSize : List Node → Nat
  | [] => 0
  | n :: rest => size n + itemsSize rest

/-- `size` for the entries of a mapping. -/
def entriesSize : List (Node × Node) → Nat
  | [] => 0
  | (k, v) :: rest => size k + size v + entriesSize rest

end

end Node

end Dataflow.Yaml
