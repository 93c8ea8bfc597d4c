import Dataflow.Yaml.Token
import Dataflow.Yaml.Placed
import Dataflow.Text.Hex
import Dataflow.Decimal.Numeral

/-!
# Anchors, tags and directives

The names by which nodes are referred to, the tags that tell what a node is, and the lines before
a document that give tag handles a meaning.
-/

namespace Dataflow.Yaml

/-- The name of an anchor or an alias. -/
def scanAnchorName (s : List Placed) : Option (String × List Placed) :=
  let (name, rest) := takeChars isNameChar s
  let ends := blankNext rest || anyNext ['?', ':', ',', ']', '}', '%', '@', '\x60'] rest
  if name.isEmpty || !ends then none else some (String.ofList name, rest)

/-- Whether the character may stand in a tag; the signs of brackets may do so only in a tag that
is written out. -/
def isTagChar (writtenOut : Bool) (c : Char) : Bool :=
  isNameChar c ||
    [';', '/', '?', ':', '@', '&', '=', '+', '$', '.', '!', '~', '*', '\x27', '(', ')'].contains c ||
    (writtenOut && (c == ',' || c == '[' || c == ']'))

/-- The number of octets after the first one of a character. -/
def octetsAfter? (octet : Nat) : Option Nat :=
  if octet < 0x80 then some 0
  else if 0xC0 ≤ octet && octet < 0xE0 then some 1
  else if 0xE0 ≤ octet && octet < 0xF0 then some 2
  else if 0xF0 ≤ octet && octet < 0xF8 then some 3
  else none

/-- The octets still owed after the given one, when `owed` were owed before. -/
def owedAfter? (owed octet : Nat) : Option Nat :=
  if owed == 0 then octetsAfter? octet
  else if 0x80 ≤ octet && octet < 0xC0 then some (owed - 1)
  else none

/-- The characters of a tag; an octet may be written in percent encoding, and the octets of a
character come together. -/
def takeTagChars (writtenOut : Bool) (owed : Nat) :
    List Placed → Option (List Char × List Placed)
  | [] => if owed == 0 then some ([], []) else none
  | p :: rest =>
    if p.char == '%' then
      match rest with
      | a :: b :: rest => do
        let octet := (← Text.hexValue? a.char) * 16 + (← Text.hexValue? b.char)
        let owed ← owedAfter? owed octet
        let (cs, rest) ← takeTagChars writtenOut owed rest
        return (Char.ofNat octet :: cs, rest)
      | _ => none
    else if owed != 0 then none
    else if isTagChar writtenOut p.char then do
      let (cs, rest) ← takeTagChars writtenOut 0 rest
      return (p.char :: cs, rest)
    else some ([], p :: rest)

/-- A tag that is written out between angle brackets, after the opening one. -/
def scanFullTag (s : List Placed) : Option (Token × List Placed) := do
  let (text, s) ← takeTagChars true 0 s
  match s with
  | p :: rest =>
    if p.char == '>' && !text.isEmpty then some (.tag "" (String.ofList text), rest) else none
  | [] => none

/-- A tag with a handle, after the exclamation mark that it starts with. -/
def scanShortTag (s : List Placed) : Option (Token × List Placed) := do
  let (name, s) := takeChars isNameChar s
  match s with
  | p :: rest =>
    if p.char == '!' then do
      let (suffix, rest) ← takeTagChars false 0 rest
      if suffix.isEmpty then none
      else some (.tag (String.ofList ('!' :: (name ++ ['!']))) (String.ofList suffix), rest)
    else local? name (p :: rest)
  | [] => local? name []
where
  /-- A tag with the handle that is one exclamation mark; without anything after it, it is no
  handle but the tag itself. -/
  local? (name : List Char) (s : List Placed) : Option (Token × List Placed) := do
    let (more, rest) ← takeTagChars false 0 s
    let suffix := name ++ more
    if suffix.isEmpty then some (.tag "" "!", rest)
    else some (.tag "!" (String.ofList suffix), rest)

/-- A tag, after its exclamation mark. -/
def scanTag (inFlow : Bool) (s : List Placed) : Option (Token × List Placed) := do
  let (token, rest) ← match s with
    | p :: rest => if p.char == '<' then scanFullTag rest else scanShortTag (p :: rest)
    | [] => scanShortTag []
  if blankNext rest || (inFlow && comesNext ',' rest) then some (token, rest) else none

/-- A number of at most nine digits. -/
def takeVersionNumber (s : List Placed) : Option (Nat × List Placed) :=
  let (ds, rest) := takeChars Char.isDigit s
  if ds.isEmpty || 9 < ds.length then none else some (Decimal.natOfDigits ds, rest)

/-- The version of the format, after its directive's name. -/
def scanVersion (s : List Placed) : Option (Token × List Placed) := do
  let (major, s) ← takeVersionNumber (dropBlanks s)
  match s with
  | p :: rest =>
    if p.char == '.' then do
      let (minor, rest) ← takeVersionNumber rest
      return (.version major minor, rest)
    else none
  | [] => none

/-- A tag handle: one exclamation mark, or a name between two. -/
def takeTagHandle : List Placed → Option (String × List Placed)
  | [] => none
  | p :: rest =>
    let (name, rest) := takeChars isNameChar rest
    if p.char != '!' then none
    else if comesNext '!' rest then some (String.ofList ('!' :: (name ++ ['!'])), rest.tail)
    else if name.isEmpty then some ("!", rest)
    else none

/-- The meaning of a tag handle, after its directive's name. -/
def scanTagHandle (s : List Placed) : Option (Token × List Placed) := do
  let (handle, s) ← takeTagHandle (dropBlanks s)
  let afterBlanks := dropBlanks s
  if afterBlanks.length == s.length then none
  else
    let (start, rest) ← takeTagChars true 0 afterBlanks
    if start.isEmpty || !blankNext rest then none
    else some (.tagHandle handle (String.ofList start), rest)

/-- A directive, after its percent sign; it takes up the whole line. -/
def scanDirective (s : List Placed) : Option (Token × List Placed) := do
  let (name, s) := takeChars isNameChar s
  if !blankNext s then none
  else
    let (token, s) ← match String.ofList name with
      | "YAML" => scanVersion s
      | "TAG" => scanTagHandle s
      | _ => none
    return (token, ← dropLineEnd s)

end Dataflow.Yaml
