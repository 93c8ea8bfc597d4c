import Dataflow.Url.Basic
import Dataflow.Url.Encoding
import Dataflow.Text.Blank

/-!
# Reading URLs

An absolute URL is read as the URL standard says: blanks around it and line breaks in it are
ignored, the scheme tells which kind of URL it is, and fragment, query, authority and path are cut
apart at their marks. Dot segments are resolved, and every part is encoded as its place demands.
-/

namespace Dataflow.Url

/-- The text that counts: without controls and blanks around it, and without tabs and breaks. -/
def significant (s : List Char) : List Char :=
  (Text.stripWhile (fun c => c.toNat ≤ 0x20) s).filter fun c =>
    c != '\t' && c != '\n' && c != '\r'

/-- Whether a character can be in a scheme. -/
def isSchemeChar (c : Char) : Bool := c.isAlphanum || c == '+' || c == '-' || c == '.'

/-- The scheme, in small letters, and what follows its colon. -/
def takeScheme (s : List Char) : Option (List Char × List Char) :=
  match s.dropWhile isSchemeChar with
  | ':' :: rest =>
    if s.head?.any Char.isAlpha then some ((s.takeWhile isSchemeChar).map Char.toLower, rest)
    else none
  | _ => none

/-- What stands before a mark, and what stands after it, if it is there. -/
def cutOff (mark : Char) (s : List Char) : List Char × Option (List Char) :=
  match Text.cutAt mark s with
  | some (before, after) => (before, some after)
  | none => (s, none)

/-- Whether a character is a slash in the given scheme. -/
def isSlash (special : Bool) (c : Char) : Bool := c == '/' || (special && c == '\\')

/-- The pieces between slashes. -/
def splitSlashes (special : Bool) : List Char → List (List Char)
  | [] => [[]]
  | c :: rest =>
    match splitSlashes special rest with
    | [] => [[c]]
    | piece :: more => if isSlash special c then [] :: piece :: more else (c :: piece) :: more

/-- A segment with its encoded full stops read. -/
def dots (segment : List Char) : List Char :=
  match segment with
  | '%' :: '2' :: e :: rest => if e == 'e' || e == 'E' then '.' :: dots rest else segment
  | c :: rest => c :: dots rest
  | [] => []

/-- Whether a segment means the segments so far. -/
def isSingleDot (segment : List Char) : Bool := dots segment == ['.']

/-- Whether a segment takes the last segment back. -/
def isDoubleDot (segment : List Char) : Bool := dots segment == ['.', '.']

/-- Whether a segment is a drive letter. -/
def isDriveLetter : List Char → Bool
  | [c, mark] => c.isAlpha && (mark == ':' || mark == '|')
  | _ => false

/-- Takes the last segment back; a drive letter at the start of a file's path stays. -/
def shorten (file : Bool) (done : List (List Char)) : List (List Char) :=
  match done with
  | [only] => if file && isDriveLetter only then [only] else []
  | done => done.dropLast

/-- A segment that is kept; a drive letter at the start of a file's path gets a colon. -/
def keepSegment (file : Bool) (done : List (List Char)) (segment : List Char) : List Char :=
  if file && done.isEmpty && isDriveLetter segment then segment.take 1 ++ [':']
  else Text.percentEncode safeInPath segment

/-- The segments with dot segments resolved; `done` holds the segments so far. -/
def resolve (file : Bool) (done : List (List Char)) : List (List Char) → List (List Char)
  | [] => done
  | segment :: rest =>
    if isDoubleDot segment then
      let done := shorten file done
      resolve file (if rest.isEmpty then done ++ [[]] else done) rest
    else if isSingleDot segment then
      resolve file (if rest.isEmpty then done ++ [[]] else done) rest
    else resolve file (done ++ [keepSegment file done segment]) rest

/-- The path of a special URL, of which the text after the authority is given. -/
def specialPath (s : List Char) : Path :=
  let s := match s with
    | c :: rest => if isSlash true c then rest else c :: rest
    | [] => []
  .segments (resolve false [] (splitSlashes true s))

/-- The path of a file; empty segments at its start do not count. -/
def filePath (s : List Char) : Path :=
  let kept := (resolve true [] (splitSlashes true (s.dropWhile (isSlash true)))).dropWhile
    List.isEmpty
  .segments (if kept.isEmpty then [[]] else kept)

/-- The path of any other URL with an authority or a slash at its start. -/
def plainPath : List Char → Path
  | [] => .segments []
  | _ :: rest => .segments (resolve false [] (splitSlashes false rest))

/-- The part of an authority before its last `@`, if it has one, and the part after it. -/
def cutUserinfo (s : List Char) : Option (List Char) × List Char :=
  if s.contains '@' then
    (some ((s.reverse.dropWhile (· != '@')).drop 1).reverse,
      (s.reverse.takeWhile (· != '@')).reverse)
  else (none, s)

/-- The host and the port, which a colon outside of brackets sets off. -/
def cutPort (inBrackets : Bool) : List Char → List Char × Option (List Char)
  | [] => ([], none)
  | c :: rest =>
    if c == ':' && !inBrackets then ([], some rest)
    else
      let (host, port) := cutPort (if c == '[' then true else if c == ']' then false else inBrackets)
        rest
      (c :: host, port)

/-- The number of a port; none if it is not given or the usual one. -/
def readPort (scheme s : List Char) : Except Fault (Option Nat) :=
  if s.isEmpty then .ok none
  else if !s.all Char.isDigit then .error .badPort
  else
    let n := s.foldl (fun n c => n * 10 + (c.toNat - 48)) 0
    if 65535 < n then .error .badPort
    else .ok (if defaultPort? scheme == some n then none else some n)

/-- The parts of an authority. -/
structure Authority where
  username : List Char
  password : List Char
  host : Host
  port : Option Nat

/-- Reads an authority; `more` tells whether the URL goes on after it. -/
def readAuthority (scheme : List Char) (more : Bool) (s : List Char) :
    Except Fault Authority := do
  let (userinfo, address) := cutUserinfo s
  let (hostText, portText) := cutPort false address
  let special := isSpecial scheme
  if hostText.isEmpty && (special || portText.isSome || userinfo.any fun u => !u.isEmpty || more) then
    .error .emptyHost
  else
    let host ← if special then Host.parse hostText else Host.parseOpaque hostText
    let port ← readPort scheme (portText.getD [])
    let (user, password) := cutOff ':' (userinfo.getD [])
    return {
      username := Text.percentEncode safeInUserinfo user
      password := Text.percentEncode safeInUserinfo (password.getD [])
      host
      port }

/-- Reads what follows the scheme of a special URL. -/
def readSpecial (scheme : List Char) (more : Bool) (s : List Char) :
    Except Fault (Option Authority × Path) := do
  let s := s.dropWhile (isSlash true)
  let rest := s.dropWhile fun c => !isSlash true c
  let authority ← readAuthority scheme (more || !rest.isEmpty)
    (s.takeWhile fun c => !isSlash true c)
  return (some authority, specialPath rest)

/-- The authority of a URL that has a host only. -/
def Authority.ofHost (host : Host) : Authority := ⟨[], [], host, none⟩

/-- Reads what follows the scheme of a file's URL. -/
def readFile (s : List Char) : Except Fault (Option Authority × Path) := do
  let nowhere := Authority.ofHost (.name [])
  match s with
  | a :: b :: rest =>
    if isSlash true a && isSlash true b then
      let hostText := rest.takeWhile fun c => !isSlash true c
      if hostText.isEmpty || isDriveLetter hostText then return (some nowhere, filePath rest)
      else
        let path := filePath (rest.dropWhile fun c => !isSlash true c)
        match ← Host.parse hostText with
        | .name domain =>
          let here := domain == "localhost".toList
          return (some (if here then nowhere else .ofHost (.name domain)), path)
        | host => return (some (.ofHost host), path)
    else return (some nowhere, filePath s)
  | s => return (some nowhere, filePath s)

/-- Reads what follows the scheme of any other URL. -/
def readPlain (scheme : List Char) (more : Bool) (s : List Char) :
    Except Fault (Option Authority × Path) := do
  match s with
  | '/' :: '/' :: s =>
    let rest := s.dropWhile (· != '/')
    let authority ← readAuthority scheme (more || !rest.isEmpty) (s.takeWhile (· != '/'))
    return (some authority, plainPath rest)
  | '/' :: rest => return (none, plainPath ('/' :: rest))
  | s => return (none, .rootless (Text.percentEncode safeInOpaque s))

/-- The URL that a text writes. -/
def parseChars (s : List Char) : Except Fault Url :=
  match takeScheme (significant s) with
  | none => .error .relative
  | some (scheme, rest) => do
    let (rest, fragment) := cutOff '#' rest
    let (rest, query) := cutOff '?' rest
    let more := query.isSome || fragment.isSome
    let (authority, path) ←
      if isFile scheme then readFile rest
      else if isSpecial scheme then readSpecial scheme more rest
      else readPlain scheme more rest
    let safe := if isSpecial scheme then safeInSpecialQuery else safeInQuery
    return {
      scheme
      username := (authority.map Authority.username).getD []
      password := (authority.map Authority.password).getD []
      host := authority.map Authority.host
      port := authority.bind Authority.port
      path
      query := query.map (Text.percentEncode safe)
      fragment := fragment.map (Text.percentEncode safeInFragment) }

/-- The URL that a text writes. -/
def parse (s : String) : Except Fault Url := parseChars s.toList

end Dataflow.Url
