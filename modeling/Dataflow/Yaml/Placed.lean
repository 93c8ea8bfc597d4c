/-!
# The characters of a YAML text

A text is read as a list of characters that know their places. The place matters to YAML: the
column tells how deep a line is indented, the line and the index how far a key may reach. Before
that the ways to write a line break are made one, and a byte order mark at the start is passed
over; it still takes up a column.
-/

namespace Dataflow.Yaml

/-- Whether a text may hold the character at all. -/
def isPrintable (c : Char) : Bool :=
  let n := c.toNat
  c == '\t' || c == '\n' || c == '\r' || (0x20 ≤ n && n ≤ 0x7E) || n == 0x85 ||
    (0xA0 ≤ n && n ≤ 0xFFFD) || 0x10000 ≤ n

/-- Whether the character ends a line. -/
def isBreak (c : Char) : Bool := c == '\n' || c == '\u2028' || c == '\u2029'

/-- Whether the character is a space or a tab. -/
def isBlank (c : Char) : Bool := c == ' ' || c == '\t'

/-- Whether the character may stand in a name of an anchor, a tag handle or a directive. -/
def isNameChar (c : Char) : Bool := c.isAlphanum || c == '_' || c == '-'

/-- Writes every line break as a line feed, but for the two that Unicode adds. -/
def unifyBreaks : List Char → List Char
  | [] => []
  | '\r' :: '\n' :: rest => '\n' :: unifyBreaks rest
  | c :: rest => (if c == '\r' || c == '\u0085' then '\n' else c) :: unifyBreaks rest

/-- A place in a text, counted from zero. -/
structure Place where
  line : Nat
  column : Nat
  index : Nat

/-- The place after a character. -/
def Place.after (p : Place) (c : Char) : Place :=
  if isBreak c then ⟨p.line + 1, 0, p.index + 1⟩ else ⟨p.line, p.column + 1, p.index + 1⟩

/-- A character and its place. -/
structure Placed extends Place where
  char : Char

/-- The characters of a text that starts at the given place. -/
def place (p : Place) : List Char → List Placed
  | [] => []
  | c :: rest => { p with char := c } :: place (p.after c) rest

/-- A text with places, and the place of its end. -/
structure PlacedText where
  chars : List Placed
  finish : Place

/-- Gives the characters of a text their places, unless it holds one that it may not hold. -/
def PlacedText.ofChars? (text : List Char) : Option PlacedText :=
  if text.all isPrintable then
    let (start, chars) : Place × List Char :=
      match unifyBreaks text with
      | '\uFEFF' :: rest => (⟨0, 1, 1⟩, rest)
      | rest => (⟨0, 0, 0⟩, rest)
    some ⟨place start chars, chars.foldl Place.after start⟩
  else none

/-- Whether a blank, a line break or the end comes next. -/
def blankNext : List Placed → Bool
  | [] => true
  | p :: _ => isBlank p.char || isBreak p.char

/-- Whether the given character comes next. -/
def comesNext (c : Char) : List Placed → Bool
  | [] => false
  | p :: _ => p.char == c

/-- Whether one of the given characters comes next. -/
def anyNext (cs : List Char) : List Placed → Bool
  | [] => false
  | p :: _ => cs.contains p.char

/-- Whether a line starts with the mark of a document, which is a character three times. -/
def markNext (c : Char) : List Placed → Bool
  | p :: q :: r :: rest =>
    p.column == 0 && p.char == c && q.char == c && r.char == c && blankNext rest
  | _ => false

/-- Whether a document starts or ends here. -/
def documentMarkNext (s : List Placed) : Bool := markNext '-' s || markNext '.' s

/-- The characters up to the first that does not satisfy `p`, and the rest. -/
def takeChars (p : Char → Bool) (s : List Placed) : List Char × List Placed :=
  ((s.takeWhile fun q => p q.char).map Placed.char, s.dropWhile fun q => p q.char)

/-- The rest after blanks. -/
def dropBlanks (s : List Placed) : List Placed := (takeChars isBlank s).2

/-- The rest after the line, of which only blanks and a comment may be left. -/
def dropLineEnd (s : List Placed) : Option (List Placed) :=
  let s := dropBlanks s
  let s := if comesNext '#' s then (takeChars (fun c => !isBreak c) s).2 else s
  match s with
  | [] => some []
  | p :: rest => if isBreak p.char then some rest else none

end Dataflow.Yaml
