import Dataflow.Yaml.Lexer
import Dataflow.Yaml.Node
import Dataflow.Keyed

/-!
# Reading a YAML document

The tokens drive a machine that keeps the collections not yet closed, innermost first. A node may
be left out in many places; then the token that shows it stands for an empty scalar first and for
itself after that.

A text holds one document. When the tokens break off or make no sense, the document is what has
been read so far; when something else follows the document, it is not the only one.
-/

namespace Dataflow.Yaml

/-- What a text was read as. -/
structure Document where
  root : Node
  /-- Whether the text was read to its end, with nothing after the document. -/
  isWhole : Bool

/-- How a sequence is written: with dashes in a column of its own, with dashes in the column of
the key that it belongs to, or in brackets. -/
inductive SequenceStyle where
  | block
  | indentless
  | flow

/-- How a mapping is written: by indentation, in braces, or as a single pair in the brackets of a
sequence. -/
inductive MappingStyle where
  | block
  | flow
  | pair

/-- What the next node of a mapping is. -/
inductive Part where
  | key
  /-- A key without a mark; it has no value. -/
  | loneKey
  | value (key : Node)

/-- A collection that is being read, with its items or entries latest first. -/
inductive Frame where
  | document (isExplicit : Bool) (root : Option Node)
  | sequence (style : SequenceStyle) (props : Properties) (items : List Node)
  | mapping (style : MappingStyle) (props : Properties) (entries : List (Node × Node))
    (part : Part)

namespace Frame

/-- Whether block collections may start in a collection. -/
def takesBlocks : Frame → Bool
  | .document _ _ => true
  | .sequence style _ _ => match style with
    | .flow => false
    | _ => true
  | .mapping style _ _ _ => match style with
    | .block => true
    | _ => false

/-- Whether the dashes of a sequence may stand in the column of the collection. -/
def takesDashes : Frame → Bool
  | .mapping .block _ _ _ => true
  | _ => false

/-- Whether the next node of a collection may be left out before a token. -/
def mayFill (frame : Frame) (t : Token) : Bool :=
  match frame with
  | .document isExplicit _ => isExplicit && match t with
    | .version _ _ | .tagHandle _ _ | .documentStart | .documentEnd | .textEnd => true
    | _ => false
  | .sequence .block _ _ => t == .blockEntry || t == .blockEnd
  | .sequence .indentless _ _ => t == .blockEntry || t == .key || t == .value || t == .blockEnd
  | .sequence .flow _ _ => false
  | .mapping .block _ _ _ => t == .key || t == .value || t == .blockEnd
  | .mapping .flow _ _ (.value _) => t == .flowEntry || t == .flowMappingEnd
  | .mapping .flow _ _ _ => t == .value || t == .flowEntry || t == .flowMappingEnd
  | .mapping .pair _ _ _ => t == .flowEntry || t == .flowSequenceEnd

end Frame

/-- The properties read before a node; the anchor has no number yet. -/
structure GivenProperties where
  anchor : Option String
  tag : Option String

/-- No properties. -/
def GivenProperties.none : GivenProperties := ⟨.none, .none⟩

/-- What may come next. -/
inductive Need where
  /-- A document, or a directive before it. -/
  | document
  /-- More directives, or the document mark after them. -/
  | documentMark
  /-- A node with the given properties. -/
  | node (props : GivenProperties)
  /-- A node or a closing bracket. -/
  | nodeOrClose
  /-- What separates one part of a collection from the next, or its end. -/
  | separator
  /-- The mark before a value. -/
  | valueMark
  | nothing

/-- The state of reading. -/
structure Assembly where
  frames : List Frame
  need : Need
  /-- The number of every anchor name; a name that is given again gets a new number. -/
  anchors : Keyed Nat
  version : Option (Nat × Nat)
  /-- The beginnings that tag handles stand for. -/
  handles : List (String × String)

namespace Assembly

/-- The state before the first token. -/
def start : Assembly := ⟨[.document false none], .document, [], none, []⟩

/-- The handles that have a meaning of their own. -/
def defaultHandles : List (String × String) := [("!", "!"), ("!!", "tag:yaml.org,2002:")]

/-- The tag written with a handle, if the handle has a meaning. -/
def tag? (a : Assembly) (handle suffix : String) : Option String :=
  if handle.isEmpty then some suffix
  else ((a.handles ++ defaultHandles).lookup handle).map (· ++ suffix)

/-- Numbers the anchor of a node that starts. -/
def number (a : Assembly) (props : GivenProperties) : Properties × Assembly :=
  match props.anchor with
  | some name => (⟨some a.anchors.length, props.tag⟩,
      { a with anchors := Keyed.put a.anchors name a.anchors.length })
  | none => (⟨none, props.tag⟩, a)

/-- Hands a node to the innermost collection. A pair is over when it has a value. -/
def deliver (node : Node) : List Frame → List Frame × Need
  | [] => ([], .nothing)
  | .document isExplicit _ :: frames => (.document isExplicit (some node) :: frames, .separator)
  | .sequence style props items :: frames =>
    (.sequence style props (node :: items) :: frames, .separator)
  | .mapping style props entries part :: frames =>
    match part, style with
    | .key, _ => (.mapping style props entries (.value node) :: frames, .valueMark)
    | .loneKey, _ =>
      (.mapping style props ((node, .empty ⟨none, none⟩) :: entries) .key :: frames, .separator)
    | .value key, .pair => deliver (.mapping props ((key, node) :: entries).reverse) frames
    | .value key, _ => (.mapping style props ((key, node) :: entries) .key :: frames, .separator)

/-- The state after a node. -/
def finishNode (a : Assembly) (node : Node) (frames : List Frame) : Assembly :=
  let (frames, need) := deliver node frames
  { a with frames, need }

/-- The state after an empty node with the given properties. -/
def fill (a : Assembly) (props : GivenProperties) : Assembly :=
  let (props, a) := a.number props
  a.finishNode (.empty props) a.frames

/-- The state within a collection that starts. -/
def enter (a : Assembly) (props : GivenProperties) (frame : Properties → Frame) (need : Need) :
    Assembly :=
  let (props, a) := a.number props
  { a with frames := frame props :: a.frames, need }

/-- Reads a token that belongs to a node with the given properties; `none` if it belongs to none,
or to the next one. -/
def startNode (a : Assembly) (frame : Frame) (props : GivenProperties) (t : Token) :
    Option Assembly :=
  match t with
  | .anchor name =>
    if props.anchor.isNone then some { a with need := .node { props with anchor := some name } }
    else none
  | .tag handle suffix =>
    if props.tag.isNone then
      (a.tag? handle suffix).map fun tag => { a with need := .node { props with tag := some tag } }
    else none
  | .alias name =>
    if props.anchor.isNone && props.tag.isNone then
      (Keyed.value? a.anchors name).map fun n => a.finishNode (.alias n) a.frames
    else none
  | .scalar text plain =>
    -- the tag that is a single mark says nothing about a scalar
    let tag := props.tag.filter fun tag => tag != "!"
    let (props, a) := a.number { props with tag }
    some (a.finishNode (.scalar props text plain) a.frames)
  | .flowSequenceStart => some (a.enter props (fun p => .sequence .flow p []) .nodeOrClose)
  | .flowMappingStart => some (a.enter props (fun p => .mapping .flow p [] .key) .nodeOrClose)
  | .blockSequenceStart =>
    if frame.takesBlocks then some (a.enter props (fun p => .sequence .block p []) .separator)
    else none
  | .blockMappingStart =>
    if frame.takesBlocks then some (a.enter props (fun p => .mapping .block p [] .key) .separator)
    else none
  | .blockEntry =>
    if frame.takesDashes then
      some (a.enter props (fun p => .sequence .indentless p []) (.node .none))
    else none
  | _ => none

/-- Ends what ends before the token without a token of its own: a sequence in the column of its
key, and a key without a value. -/
def settle (a : Assembly) (t : Token) : Assembly :=
  let a := match a.frames, a.need with
    | .sequence .indentless props items :: frames, .separator =>
      if t = Token.blockEntry then a else a.finishNode (.sequence props items.reverse) frames
    | _, _ => a
  match a.need with
  | .valueMark => if t = Token.value then a else a.fill .none
  | _ => a

/-- Reads a token that separates or closes. -/
def readSeparator (a : Assembly) : List Frame → Token → Option Assembly
  | .document isExplicit (some root) :: frames, t =>
    match t with
    | .documentEnd => some a
    | .textEnd =>
      some { a with frames := .document isExplicit (some root) :: frames, need := .nothing }
    | _ => none
  | .sequence .flow props items :: frames, t =>
    match t with
    | .flowEntry => some { a with need := .nodeOrClose }
    | .flowSequenceEnd => some (a.finishNode (.sequence props items.reverse) frames)
    | _ => none
  | .sequence _ props items :: frames, t =>
    match t with
    | .blockEntry => some { a with need := .node .none }
    | .blockEnd => some (a.finishNode (.sequence props items.reverse) frames)
    | _ => none
  | .mapping .block props entries _ :: frames, t =>
    match t with
    | .key => some { a with need := .node .none }
    | .blockEnd => some (a.finishNode (.mapping props entries.reverse) frames)
    | _ => none
  | .mapping .flow props entries _ :: frames, t =>
    match t with
    | .flowEntry => some { a with need := .nodeOrClose }
    | .flowMappingEnd => some (a.finishNode (.mapping props entries.reverse) frames)
    | _ => none
  | _, _ => none

/-- Reads a token after an opening bracket or a comma. -/
def readNodeOrClose (a : Assembly) : List Frame → Token → Option Assembly
  | .sequence style props items :: frames, t =>
    match t with
    | .flowSequenceEnd => some (a.finishNode (.sequence props items.reverse) frames)
    | .key =>
      some { a with
        frames := .mapping .pair ⟨none, none⟩ [] .key :: .sequence style props items :: frames
        need := .node .none }
    | t => a.startNode (.sequence style props items) .none t
  | .mapping style props entries _ :: frames, t =>
    match t with
    | .flowMappingEnd => some (a.finishNode (.mapping props entries.reverse) frames)
    | .key =>
      some { a with frames := .mapping style props entries .key :: frames, need := .node .none }
    | t =>
      let frame := .mapping style props entries .loneKey
      { a with frames := frame :: frames }.startNode frame .none t
  | _, _ => none

/-- Reads a token that does not belong to a node that has started. -/
def readBetween (a : Assembly) (t : Token) : Option Assembly :=
  let a := a.settle t
  match a.need with
  | .separator => a.readSeparator a.frames t
  | .nodeOrClose => a.readNodeOrClose a.frames t
  | .valueMark => some { a with need := .node .none }
  | _ => none

/-- Reads a token where a node with the given properties may start. -/
def readNode (a : Assembly) (props : GivenProperties) (t : Token) : Option Assembly :=
  match a.frames with
  | [] => none
  | frame :: _ =>
    match a.startNode frame props t with
    | some next => some next
    | none =>
      if props.anchor.isSome || props.tag.isSome then (a.fill props).readBetween t
      else match frame with
        | .mapping .pair _ _ .key =>
          -- the token that shows that the key of a pair is left out is passed over with it
          if t == .value || frame.mayFill t then some (a.fill props) else none
        | _ => if frame.mayFill t then (a.fill props).readBetween t else none

/-- Reads a directive. -/
def readDirective (a : Assembly) (t : Token) : Option Assembly :=
  match t with
  | .version major minor =>
    if a.version.isSome || major != 1 || (minor != 1 && minor != 2) then none
    else some { a with version := some (major, minor), need := .documentMark }
  | .tagHandle handle start =>
    if (a.handles.lookup handle).isSome then none
    else some { a with handles := (handle, start) :: a.handles, need := .documentMark }
  | .documentStart => some { a with frames := [.document true none], need := .node .none }
  | _ => none

/-- Reads a token. -/
def read (a : Assembly) (t : Token) : Option Assembly :=
  match a.need with
  | .document =>
    match t with
    | .version _ _ | .tagHandle _ _ | .documentStart => a.readDirective t
    | .textEnd => some { a with frames := [.document false (some .absent)], need := .nothing }
    | t => a.readNode .none t
  | .documentMark => a.readDirective t
  | .node props => a.readNode props t
  | _ => a.readBetween t

/-- The root of a document that breaks off, with `node` where the next node would be. -/
def collapse (node : Node) : List Frame → Node
  | [] => node
  | .document _ root :: _ => root.getD node
  | .sequence _ props items :: frames => collapse (.sequence props (node :: items).reverse) frames
  | .mapping _ props entries part :: frames =>
    let entry := match part with
      | .value key => (key, node)
      | _ => (node, .broken)
    collapse (.mapping props (entry :: entries).reverse) frames

/-- The document, when no more tokens come. -/
def toDocument (a : Assembly) : Document :=
  match a.need with
  | .nothing => ⟨collapse .broken a.frames, true⟩
  | _ => ⟨collapse .broken a.frames, false⟩

/-- Reads tokens up to the first that makes no sense. -/
def readAll (a : Assembly) : List Token → Document
  | [] => a.toDocument
  | t :: rest => match a.read t with
    | some next => next.readAll rest
    | none => ⟨collapse .broken a.frames, false⟩

end Assembly

/-- The document of a list of tokens. -/
def Document.ofTokens (ts : List Token) : Document := Assembly.start.readAll ts

/-- The document written by a text. -/
def Document.ofText (text : String) : Document := .ofTokens (tokens text.toList)

end Dataflow.Yaml
