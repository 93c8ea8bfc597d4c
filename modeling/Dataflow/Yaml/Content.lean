import Dataflow.Yaml.Subtree

/-!
# Nodes whose form is not known beforehand

Where a text may have one of several forms, its document is first read for what its scalars mean,
and then tried as each of the forms. So here a number is no text, and nothing stands for an empty
collection. A member of a record may be named by the number of its field, and a record may be a
list of its fields.
-/

namespace Dataflow.Yaml

/-- A node with the meaning of its scalars. -/
inductive Content where
  | atom (value : Atom)
  | list (items : List Content)
  | map (entries : List (Content × Content))

/-- The meaning of a scalar as content; an integer must fit 64 bits. -/
def Content.ofScalar (props : Properties) (text : String) (plain : Bool) : Decoded Content := do
  let atom ← Atom.ofScalar props.tag text plain
  let _ ← atom.toJson
  return .atom atom

/-- A node as content. -/
def toContent (anchored : List (Nat × Node)) (depth : Nat) (node : Node) : Limited Content := do
  match ← followLimited anchored node with
  | .scalar props text plain => Content.ofScalar props text plain
  | .sequence props items =>
    if isOwnTag props.tag then throw ownTagMismatch
    match depth with
    | 0 => throw tooDeep
    | depth + 1 => return .list (← items.mapM fun item => toContent anchored depth item)
  | .mapping props entries =>
    if isOwnTag props.tag then throw ownTagMismatch
    match depth with
    | 0 => throw tooDeep
    | depth + 1 =>
      return .map (← entries.mapM fun (k, v) => do
        let key ← toContent anchored depth k
        return (key, ← toContent anchored depth v))
  | .absent => return .atom .null
  | .alias _ | .broken => throw brokenOff

/-- The content of a node. -/
def Subtree.toContent (t : Subtree) : Decoded Content :=
  ((Yaml.toContent t.anchored t.depth t.node).run t.aliasLimit).map Prod.fst

namespace Content

/-- The mismatch between a content and the expected type. -/
def mismatch (c : Content) (expected : String) : Mismatch :=
  match c with
  | .atom a => .invalidType a.described expected
  | .list _ => .invalidType "sequence" expected
  | .map _ => .invalidType "map" expected

/-- A text; `expected` names what is expected. -/
def readText (expected : String) : Content → Decoded String
  | .atom (.text s) => .ok s
  | c => .error (c.mismatch expected)

/-- A truth value. -/
def readBool : Content → Decoded Bool
  | .atom (.bool b) => .ok b
  | c => .error (c.mismatch "a boolean")

/-- Nothing for null, and something for anything else. -/
def readOption {α : Type} (read : Content → Decoded α) : Content → Decoded (Option α)
  | .atom .null => .ok none
  | c => (read c).map some

/-- The items of a list, each read in the same way. -/
def readList {α : Type} (read : Content → Decoded α) : Content → Decoded (List α)
  | .list items => items.mapM read
  | c => .error (c.mismatch "a sequence")

/-- The entries of a map, each with a text for its key. -/
def readNamed {α : Type} (read : Content → Decoded α) : Content → Decoded (List (String × α))
  | .map entries => entries.mapM fun (k, v) => do
    let key ← readText "a string" k
    return (key, ← read v)
  | c => .error (c.mismatch "a map")

/-- The name of the field that a key stands for; no name if there is no such field. -/
def fieldName (fields : List String) : Content → Decoded (Option String)
  | .atom (.text s) => .ok (some s)
  | .atom (.int n) =>
    if 0 ≤ n then .ok fields[n.toNat]? else .error ((atom (.int n)).mismatch "field identifier")
  | c => .error (c.mismatch "field identifier")

/-- The members of a record up to the first whose key names no field, and the mismatch of that. -/
def named (fields : List String) :
    List (Content × Content) → List (String × Content) × Option Mismatch
  | [] => ([], none)
  | (k, v) :: rest =>
    match fieldName fields k with
    | .error m => ([], some m)
    | .ok name =>
      let (entries, stop) := named fields rest
      ((name.toList.map fun name => (name, v)) ++ entries, stop)

instance : Readable Content where
  readText := readText
  readBool := readBool
  readOption := readOption
  readList := readList
  members record fields := fun
    | .map entries =>
      let (entries, stop) := named fields entries
      .ok (.named entries stop)
    | .list items => .ok (.listed items)
    | c => .error (c.mismatch ("struct " ++ record))
  skip _ := .ok ()

end Content

end Dataflow.Yaml
