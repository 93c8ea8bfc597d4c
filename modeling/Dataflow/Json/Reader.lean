import Dataflow.Json.Token

/-!
# Reading a JSON text

The tokens drive a machine that keeps the containers not yet closed, innermost first. A text is
valid when the machine has read exactly one value at its end. Containers nest at most
`maxDepth` levels deep.
-/

namespace Dataflow.Json

/-- A container that is being read: the items so far, latest first, or the fields so far and the
key whose value comes next. -/
inductive Frame where
  | array (items : List Json)
  | object (fields : Fields) (key : String)

/-- What the next token may be. -/
inductive Need where
  | value
  | valueOrClose
  | key
  | keyOrClose
  | colon
  | separator

/-- What has been read: parts of a value, or a whole one. -/
inductive Progress where
  | within (frames : List Frame) (need : Need)
  | complete (value : Json)

/-- The deepest nesting of containers. -/
def maxDepth : Nat := 127

/-- Hands a value to the innermost container. -/
def deliver (v : Json) : List Frame → Progress
  | [] => .complete v
  | .array items :: frames => .within (.array (v :: items) :: frames) .separator
  | .object fields key :: frames =>
    .within (.object (Keyed.put fields key v) key :: frames) .separator

/-- Opens a container. -/
def openFrame (frame : Frame) (need : Need) (frames : List Frame) : Option Progress :=
  if frames.length < maxDepth then some (.within (frame :: frames) need) else none

/-- Reads a token where a value must start. -/
def readValue (frames : List Frame) : Token → Option Progress
  | .openArray => openFrame (.array []) .valueOrClose frames
  | .openObject => openFrame (.object [] "") .keyOrClose frames
  | .string s => some (deliver (.string s) frames)
  | .atom v => some (deliver v frames)
  | _ => none

/-- Reads a token where a key must stand. -/
def readKey : List Frame → Token → Option Progress
  | .object fields _ :: frames, .string key =>
    some (.within (.object fields key :: frames) .colon)
  | _, _ => none

/-- Closes the innermost container. -/
def closeFrame : List Frame → Token → Option Progress
  | .array items :: frames, .closeArray => some (deliver (.array items.reverse) frames)
  | .object fields _ :: frames, .closeObject => some (deliver (.object fields) frames)
  | _, _ => none

/-- Reads one token. -/
def readToken : Progress → Token → Option Progress
  | .complete _, _ => none
  | .within frames .value, t => readValue frames t
  | .within frames .valueOrClose, .closeArray => closeFrame frames .closeArray
  | .within frames .valueOrClose, t => readValue frames t
  | .within frames .key, t => readKey frames t
  | .within frames .keyOrClose, .closeObject => closeFrame frames .closeObject
  | .within frames .keyOrClose, t => readKey frames t
  | .within frames .colon, .colon => some (.within frames .value)
  | .within _ .colon, _ => none
  | .within (.array items :: frames) .separator, .comma =>
    some (.within (.array items :: frames) .value)
  | .within (.object fields key :: frames) .separator, .comma =>
    some (.within (.object fields key :: frames) .key)
  | .within frames .separator, t => closeFrame frames t

/-- Reads a list of tokens. -/
def readTokens (p : Progress) (ts : List Token) : Option Progress := ts.foldlM readToken p

/-- The value written by a text. -/
def parseChars? (s : List Char) : Option Json := do
  let ts ← tokens s
  match ← readTokens (.within [] .value) ts with
  | .complete v => some v
  | .within _ _ => none

/-- The value written by a text, if the text is valid. -/
def parse? (text : String) : Option Json := parseChars? text.toList

end Dataflow.Json
