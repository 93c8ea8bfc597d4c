import Dataflow.Yaml.FlowScalar
import Dataflow.Yaml.BlockScalar
import Dataflow.Yaml.Property

/-!
# Finding the tokens of a YAML text

Most keys are not marked as such: a node turns out to be a key when a value mark follows it on
its line. So the lexer remembers, for every bracket that is open, where the last node started
that may still become a key, and puts the key token in there when the value mark comes. A node
that starts a line of a block mapping has to become a key.

Collections in block style are shown by columns. The lexer keeps the columns of those that are
open and closes them when a token stands further to the left. Inside brackets columns do not
count.
-/

namespace Dataflow.Yaml

/-- A node that may become a key: its place, the number of tokens before it, and whether it has
to become one. -/
structure Candidate extends Place where
  position : Nat
  required : Bool

/-- Whether a key that starts at the candidate can no longer have its mark at the given place: it
stays on one line and within 1024 characters. -/
def Candidate.isStale (c : Candidate) (here : Place) : Bool :=
  c.line < here.line || c.index + 1024 < here.index

/-- A text in part read as tokens. -/
structure Lexer where
  rest : List Placed
  finish : Place
  /-- The candidate at the innermost level of brackets. -/
  candidate : Option Candidate
  /-- The candidates at the levels around it, innermost first. -/
  outer : List (Option Candidate)
  /-- The columns of the open block collections, innermost first. -/
  columns : List Nat
  /-- Whether a key may start here. -/
  keyAllowed : Bool
  /-- The tokens, latest first, and their number. -/
  tokens : List Token
  count : Nat

namespace Lexer

/-- The state before the first token. -/
def start (text : PlacedText) : Lexer := ⟨text.chars, text.finish, none, [], [], true, [], 0⟩

/-- Whether brackets are open. -/
def inFlow (l : Lexer) : Bool := !l.outer.isEmpty

/-- The place reached. -/
def here (l : Lexer) : Place :=
  match l.rest with
  | [] => l.finish
  | p :: _ => p.toPlace

/-- The least column of what belongs to the innermost block collection. -/
def margin (l : Lexer) : Nat :=
  match l.columns with
  | [] => 0
  | column :: _ => column + 1

/-- Appends a token. -/
def emit (l : Lexer) (t : Token) : Lexer := { l with tokens := t :: l.tokens, count := l.count + 1 }

/-- Inserts tokens before the one at the given position. -/
def insert (l : Lexer) (position : Nat) (ts : List Token) : Lexer :=
  let after := l.count - position
  { l with
    tokens := l.tokens.take after ++ (ts.reverse ++ l.tokens.drop after)
    count := l.count + ts.length }

/-- Goes on after what has been read. -/
def goOn (l : Lexer) (rest : List Placed) : Lexer := { l with rest }

/-- Forgets the candidate; it may not be one that has to become a key. -/
def dropCandidate (l : Lexer) : Option Lexer :=
  match l.candidate with
  | some c => if c.required then none else some { l with candidate := none }
  | none => some l

/-- Takes the node that starts at `p` for a candidate, where keys are allowed. -/
def offerKey (l : Lexer) (p : Placed) : Option Lexer :=
  if l.keyAllowed then do
    let required := !l.inFlow && l.columns.head? == some p.column
    let l ← l.dropCandidate
    return { l with candidate := some { p with position := l.count, required } }
  else some l

/-- What is left of a candidate at the given place; `none` if it had to become a key by now. -/
def refresh (here : Place) : Option Candidate → Option (Option Candidate)
  | none => some none
  | some c => if !c.isStale here then some (some c) else if c.required then none else some none

/-- Forgets the candidates that are stale at the place reached. -/
def refreshed (l : Lexer) : Option Lexer := do
  let candidate ← refresh l.here l.candidate
  let outer ← l.outer.mapM (refresh l.here)
  return { l with candidate, outer }

/-- Opens a block collection at the given column, unless it is open already; its token goes
before the token at the given position, with the tokens in `ts`. -/
def openBlock (l : Lexer) (column position : Nat) (t : Token) (ts : List Token) : Lexer :=
  if !l.inFlow && l.columns.head?.all fun c => c < column then
    { l.insert position (t :: ts) with columns := column :: l.columns }
  else l.insert position ts

/-- Closes the first `n` block collections. -/
def closeBlocks (l : Lexer) (n : Nat) : Lexer :=
  { l with
    columns := l.columns.drop n
    tokens := List.replicate n .blockEnd ++ l.tokens
    count := l.count + n }

/-- Closes the block collections that stand to the right of the given column. -/
def closeBlocksFrom (l : Lexer) (column : Nat) : Lexer :=
  if l.inFlow then l else l.closeBlocks (l.columns.takeWhile fun c => column < c).length

/-- Closes all block collections. -/
def closeAllBlocks (l : Lexer) : Lexer := if l.inFlow then l else l.closeBlocks l.columns.length

/-- Passes over blanks, comments and line breaks. A new line in block style is a place for a key;
there a tab is no blank. -/
def dropSpace (inFlow keyAllowed inComment : Bool) : List Placed → Bool × List Placed
  | [] => (keyAllowed, [])
  | p :: rest =>
    if isBreak p.char then dropSpace inFlow (keyAllowed || !inFlow) false rest
    else if inComment then dropSpace inFlow keyAllowed true rest
    else if p.char == ' ' || (p.char == '\t' && (inFlow || !keyAllowed)) then
      dropSpace inFlow keyAllowed false rest
    else if p.char == '#' then dropSpace inFlow keyAllowed true rest
    else (keyAllowed, p :: rest)

/-- A directive, after its sign. -/
def directive (l : Lexer) (rest : List Placed) : Option Lexer := do
  let l ← l.closeAllBlocks.dropCandidate
  let (token, rest) ← scanDirective rest
  return ({ l with keyAllowed := false }.emit token).goOn rest

/-- A document mark. -/
def documentMark (l : Lexer) (t : Token) (rest : List Placed) : Option Lexer := do
  let l ← l.closeAllBlocks.dropCandidate
  return ({ l with keyAllowed := false }.emit t).goOn rest

/-- An opening bracket. -/
def openFlow (l : Lexer) (p : Placed) (t : Token) (rest : List Placed) : Option Lexer := do
  let l ← l.offerKey p
  let l := { l with candidate := none, outer := l.candidate :: l.outer, keyAllowed := true }
  return (l.emit t).goOn rest

/-- A closing bracket. -/
def closeFlow (l : Lexer) (t : Token) (rest : List Placed) : Option Lexer := do
  let l ← l.dropCandidate
  let l := match l.outer with
    | [] => l
    | candidate :: outer => { l with candidate, outer }
  return ({ l with keyAllowed := false }.emit t).goOn rest

/-- A comma between brackets. -/
def flowEntry (l : Lexer) (rest : List Placed) : Option Lexer := do
  let l ← l.dropCandidate
  return ({ l with keyAllowed := true }.emit .flowEntry).goOn rest

/-- A dash before an entry of a block sequence. -/
def blockEntry (l : Lexer) (p : Placed) (rest : List Placed) : Option Lexer := do
  let l ← if l.inFlow then some l
    else if l.keyAllowed then some (l.openBlock p.column l.count .blockSequenceStart [])
    else none
  let l ← l.dropCandidate
  return ({ l with keyAllowed := true }.emit .blockEntry).goOn rest

/-- A question mark before a key. -/
def keyMark (l : Lexer) (p : Placed) (rest : List Placed) : Option Lexer := do
  let l ← if l.inFlow then some l
    else if l.keyAllowed then some (l.openBlock p.column l.count .blockMappingStart [])
    else none
  let l ← l.dropCandidate
  return ({ l with keyAllowed := !l.inFlow }.emit .key).goOn rest

/-- A colon before a value; it makes a key of the candidate, if there is one. -/
def valueMark (l : Lexer) (p : Placed) (rest : List Placed) : Option Lexer := do
  let l ← match l.candidate with
    | some c =>
      let l := l.openBlock c.column c.position .blockMappingStart [.key]
      some { l with candidate := none, keyAllowed := false }
    | none =>
      if l.inFlow then some { l with keyAllowed := false }
      else if l.keyAllowed then some (l.openBlock p.column l.count .blockMappingStart [])
      else none
  return (l.emit .value).goOn rest

/-- An anchor or an alias, after its sign. -/
def anchor (l : Lexer) (p : Placed) (token : String → Token) (rest : List Placed) :
    Option Lexer := do
  let l ← l.offerKey p
  let (name, rest) ← scanAnchorName rest
  return ({ l with keyAllowed := false }.emit (token name)).goOn rest

/-- A tag, after its sign. -/
def tag (l : Lexer) (p : Placed) (rest : List Placed) : Option Lexer := do
  let l ← l.offerKey p
  let (token, rest) ← scanTag l.inFlow rest
  return ({ l with keyAllowed := false }.emit token).goOn rest

/-- A block scalar, after its sign. -/
def blockScalar (l : Lexer) (isFolded : Bool) (rest : List Placed) : Option Lexer := do
  let l ← l.dropCandidate
  let (text, rest) ← scanBlockScalar isFolded l.margin rest
  let token := Token.scalar (String.ofList text.reverse) false
  return ({ l with keyAllowed := true }.emit token).goOn rest

/-- A scalar in any other style. -/
def flowScalar (l : Lexer) (p : Placed) (plain : Bool) (scan : Option ScannedScalar) :
    Option Lexer := do
  let l ← l.offerKey p
  let s ← scan
  let token := Token.scalar (String.ofList s.text.reverse) plain
  return ({ l with keyAllowed := s.crossesLine }.emit token).goOn s.rest

/-- A plain scalar. -/
def plainScalar (l : Lexer) (p : Placed) (rest : List Placed) : Option Lexer :=
  l.flowScalar p true (scanPlain l.inFlow l.margin [] .empty (p :: rest))

/-- The signs that no plain scalar starts with. -/
def reserved : List Char := ['#', '%', '@', '\x60', '|', '>', '\t']

/-- Reads the token that starts with the character `p`. -/
def readToken (l : Lexer) (p : Placed) (rest : List Placed) : Option Lexer :=
  if p.column == 0 && p.char == '%' then l.directive rest
  else if markNext '-' (p :: rest) then l.documentMark .documentStart (rest.drop 2)
  else if markNext '.' (p :: rest) then l.documentMark .documentEnd (rest.drop 2)
  else
    let standsAlone := l.inFlow || blankNext rest
    match p.char with
    | '[' => l.openFlow p .flowSequenceStart rest
    | '{' => l.openFlow p .flowMappingStart rest
    | ']' => l.closeFlow .flowSequenceEnd rest
    | '}' => l.closeFlow .flowMappingEnd rest
    | ',' => l.flowEntry rest
    | '-' => if blankNext rest then l.blockEntry p rest else l.plainScalar p rest
    | '?' => if standsAlone then l.keyMark p rest else l.plainScalar p rest
    | ':' => if standsAlone then l.valueMark p rest else l.plainScalar p rest
    | '*' => l.anchor p .alias rest
    | '&' => l.anchor p .anchor rest
    | '!' => l.tag p rest
    | '"' => l.flowScalar p false (scanDoubleQuoted .none [] .empty rest)
    | '\x27' => l.flowScalar p false (scanSingleQuoted [] .empty rest)
    | '|' => if l.inFlow then none else l.blockScalar false rest
    | '>' => if l.inFlow then none else l.blockScalar true rest
    | c => if reserved.contains c then none else l.plainScalar p rest

/-- The end of the text: no candidate may be left that has to become a key. -/
def readEnd (l : Lexer) : Option Lexer :=
  if (l.candidate :: l.outer).any fun c => c.any Candidate.required then none
  else some (l.closeAllBlocks.emit .textEnd)

/-- The tokens of a text, up to the first place that cannot be read; a token behind a candidate is
not known to be the next one and does not count then. -/
def settled (l : Lexer) : List Token :=
  let positions := (l.candidate :: l.outer).filterMap fun c => c.map Candidate.position
  l.tokens.reverse.take (positions.foldl min l.count)

/-- Reads the tokens that are left. -/
def run (l : Lexer) : List Token :=
  let (keyAllowed, rest) := dropSpace l.inFlow l.keyAllowed false l.rest
  let next := do
    let here ← { l with keyAllowed, rest }.refreshed
    match rest with
    | [] => here.readEnd
    | p :: rest => ((← (here.closeBlocksFrom p.column).readToken p rest)).refreshed
  match next with
  | none => l.settled
  | some next =>
    if rest.isEmpty then next.tokens.reverse
    else if next.rest.length < l.rest.length then next.run
    else l.settled
termination_by l.rest.length

end Lexer

/-- The tokens of a text; the last one is `textEnd` unless a part cannot be read. -/
def tokens (text : List Char) : List Token :=
  match PlacedText.ofChars? text with
  | some text => (Lexer.start text).run
  | none => []

end Dataflow.Yaml
