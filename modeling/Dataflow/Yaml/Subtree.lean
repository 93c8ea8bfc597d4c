import Dataflow.Yaml.Document
import Dataflow.Yaml.Scalar
import Dataflow.Decode.Readable

/-!
# Reading YAML nodes as typed data

A node is read together with the document around it, in which its aliases are looked up, and with
the number of collections that it may still nest; an alias that refers to a node around it runs
out of these. A scalar is a text as it is written, whatever else it may mean. Where a collection
or an optional value is wanted, an empty plain scalar will do.
-/

namespace Dataflow.Yaml

/-- A node, the nodes with an anchor in its document, how often an alias may be followed, and how
deep the node may nest collections. -/
structure Subtree where
  anchored : List (Nat × Node)
  aliasLimit : Nat
  depth : Nat
  node : Node

/-- The deepest nesting of collections. -/
def maxDepth : Nat := 128

/-- A document as a whole. Aliases may be followed a hundred times for every part of it. -/
def Document.toSubtree (d : Document) : Subtree :=
  ⟨d.root.anchored.reverse, 100 * d.root.size, maxDepth, d.root⟩

/-- The mismatch of a document that breaks off. -/
def brokenOff : Mismatch := .custom "the document breaks off"

/-- The mismatch of collections that nest too deep. -/
def tooDeep : Mismatch := .custom "recursion limit exceeded"

/-- The mismatch of aliases that stand for too many nodes. -/
def tooManyAliases : Mismatch := .custom "repetition limit exceeded"

/-- The node that an alias refers to, which is the last one with its anchor; any other node is
itself. -/
def follow (anchored : List (Nat × Node)) : Node → Node
  | .alias anchor => (anchored.lookup anchor).getD .broken
  | node => node

/-- The mismatch between a node and the expected type. -/
def Node.mismatch (node : Node) (expected : String) : Mismatch :=
  match node with
  | .scalar props text plain =>
    match Atom.ofScalar props.tag text plain with
    | .ok atom => .invalidType atom.described expected
    | .error (.invalidType found _) => .invalidType found expected
    | .error m => m
  | .sequence _ _ => .invalidType "sequence" expected
  | .mapping _ _ => .invalidType "map" expected
  | .alias _ | .absent | .broken => brokenOff

/-- Whether a node is nothing, or a scalar that is not written. -/
def Node.isVoid : Node → Bool
  | .scalar _ text plain => plain && text.isEmpty
  | .absent => true
  | _ => false

/-- Reading that may follow a limited number of aliases. -/
abbrev Limited (α : Type) := StateT Nat (Except Mismatch) α

/-- The node that an alias refers to, at the cost of one. -/
def followLimited (anchored : List (Nat × Node)) (node : Node) : Limited Node := do
  match node with
  | .alias _ =>
    match ← get with
    | 0 => throw tooManyAliases
    | left + 1 => set left
    return follow anchored node
  | node => return node

/-- The path of a member. -/
def memberPath (path key : String) : String := if path.isEmpty then key else path ++ "." ++ key

/-- The path of an item. -/
def itemPath (path : String) (position : Nat) : String := path ++ "[" ++ toString position ++ "]"

/-- A mismatch at the given path. -/
def locate (path : String) (m : Mismatch) : Mismatch :=
  if path.isEmpty then m else .located path m

/-- The text of a key. -/
def keyText (anchored : List (Nat × Node)) (path : String) (key : Node) : Limited String := do
  match ← followLimited anchored key with
  | .scalar _ text _ => return text
  | .broken => throw brokenOff
  | key => throw (locate path (key.mismatch "a string key"))

/-- A node as a JSON value. A scalar counts for what it means, but a key for its text. -/
def toJson (anchored : List (Nat × Node)) (depth : Nat) (path : String) (node : Node) :
    Limited Json := do
  match ← followLimited anchored node with
  | .scalar props text plain =>
    match Atom.ofScalar props.tag text plain >>= Atom.toJson with
    | .ok v => return v
    | .error m => throw (locate path m)
  | .sequence props items =>
    if isOwnTag props.tag then throw (locate path ownTagMismatch)
    match depth with
    | 0 => throw tooDeep
    | depth + 1 =>
      let values ← items.zipIdx.mapM fun (item, i) => toJson anchored depth (itemPath path i) item
      return .array values
  | .mapping props entries =>
    if isOwnTag props.tag then throw (locate path ownTagMismatch)
    match depth with
    | 0 => throw tooDeep
    | depth + 1 =>
      let fields ← entries.mapM fun (k, v) => do
        let key ← keyText anchored path k
        return (key, ← toJson anchored depth (memberPath path key) v)
      return .ofEntries fields
  | .absent => return .null
  | .alias _ | .broken => throw brokenOff

namespace Subtree

/-- The node meant, which is no alias. -/
def meant (t : Subtree) : Node := follow t.anchored t.node

/-- A part of the node. -/
def part (t : Subtree) (depth : Nat) (node : Node) : Subtree := { t with depth, node }

/-- The text of a scalar; `expected` names what is expected. -/
def readText (expected : String) (t : Subtree) : Decoded String :=
  match t.meant with
  | .scalar _ text _ => .ok text
  | node => .error (node.mismatch expected)

/-- A truth value. -/
def readBool (t : Subtree) : Decoded Bool :=
  match t.meant with
  | .scalar props text plain =>
    match Atom.ofScalar props.tag text plain with
    | .ok (.bool b) => .ok b
    | _ => .error ((Node.scalar props text plain).mismatch "a boolean")
  | node => .error (node.mismatch "a boolean")

/-- Nothing for a null or for what is not written, and something for anything else. -/
def readOption {α : Type} (read : Subtree → Decoded α) (t : Subtree) : Decoded (Option α) :=
  match t.meant with
  | .scalar props text true =>
    if props.tag == some (typeTag "null") then
      if isNullText text then .ok none
      else .error (.invalidValue ("string " ++ Text.shown text) "null")
    else if props.tag.isNone && (text.isEmpty || isNullText text) then .ok none
    else (read t).map some
  | .absent => .ok none
  | .broken => .error brokenOff
  | _ => (read t).map some

/-- The items of a sequence, each read in the same way. -/
def readList {α : Type} (read : Subtree → Decoded α) (t : Subtree) : Decoded (List α) :=
  match t.meant, t.depth with
  | .sequence _ _, 0 => .error tooDeep
  | .sequence _ items, depth + 1 => items.mapM fun item => read (t.part depth item)
  | node, _ => if node.isVoid then .ok [] else .error (node.mismatch "a sequence")

/-- The entries of a mapping up to the first whose key is no scalar, and the mismatch of that. -/
def named (t : Subtree) (depth : Nat) :
    List (Node × Node) → List (String × Subtree) × Option Mismatch
  | [] => ([], none)
  | (k, v) :: rest =>
    match (t.part depth k).readText "field identifier" with
    | .error m => ([], some m)
    | .ok key =>
      let (entries, stop) := named t depth rest
      ((key, t.part depth v) :: entries, stop)

/-- What a node offers to a record; only mappings will do. -/
def members (record : String) (t : Subtree) : Decoded (Members Subtree) :=
  match t.meant, t.depth with
  | .mapping _ _, 0 => .error tooDeep
  | .mapping _ entries, depth + 1 =>
    let (entries, stop) := t.named depth entries
    .ok (.named entries stop)
  | node, _ =>
    if node.isVoid then .ok (.named [] none) else .error (node.mismatch ("struct " ++ record))

/-- The node as a JSON value. -/
def readAny (t : Subtree) : Decoded Json :=
  ((toJson t.anchored t.depth "" t.node).run t.aliasLimit).map Prod.fst

instance : Readable Subtree where
  readText := readText
  readBool := readBool
  readOption := readOption
  readList := readList
  members record _ := members record
  skip t := if t.node.isWhole then .ok () else .error brokenOff

instance : ReadableAsJson Subtree where
  readAny := readAny

end Subtree

end Dataflow.Yaml
