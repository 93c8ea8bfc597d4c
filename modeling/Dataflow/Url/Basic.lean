import Dataflow.Url.Host

/-!
# URLs

A URL as its parts, and the text that the parts make. The schemes that are called special have an
authority, and in them a backslash is as good as a slash.
-/

namespace Dataflow

/-- The path of a URL. -/
inductive Url.Path where
  /-- Any text, already encoded; such a URL has no host. -/
  | rootless (text : List Char)
  /-- Segments, already encoded, each after a slash. -/
  | segments (items : List (List Char))

/-- A URL. All parts are already encoded. -/
structure Url where
  scheme : List Char
  username : List Char
  password : List Char
  host : Option Url.Host
  /-- The port, unless it is the usual one of the scheme. -/
  port : Option Nat
  path : Url.Path
  query : Option (List Char)
  fragment : Option (List Char)

namespace Url

/-- The usual port of a scheme. -/
def defaultPort? (scheme : List Char) : Option Nat :=
  match String.ofList scheme with
  | "http" | "ws" => some 80
  | "https" | "wss" => some 443
  | "ftp" => some 21
  | _ => none

/-- Whether a scheme is the one of files. -/
def isFile (scheme : List Char) : Bool := scheme == "file".toList

/-- Whether a scheme is special. -/
def isSpecial (scheme : List Char) : Bool := (defaultPort? scheme).isSome || isFile scheme

/-- The user and the password, with the sign after them. -/
def credentialsText (u : Url) : List Char :=
  if u.username.isEmpty && u.password.isEmpty then []
  else u.username ++ (if u.password.isEmpty then [] else ':' :: u.password) ++ ['@']

/-- The text of a path. -/
def Path.text : Path → List Char
  | .rootless text => text
  | .segments items => items.flatMap fun s => '/' :: s

/-- The authority with its slashes; without one, a path that starts with two slashes is set off. -/
def authorityText (u : Url) : List Char :=
  match u.host with
  | some host =>
    ['/', '/'] ++ u.credentialsText ++ host.text ++
      (match u.port with
        | some n => ':' :: Nat.toDigits 10 n
        | none => [])
  | none =>
    match u.path with
    | .segments ([] :: _ :: _) => ['/', '.']
    | _ => []

/-- The text of a URL. -/
def text (u : Url) : List Char :=
  u.scheme ++ ':' :: (u.authorityText ++ u.path.text ++
    (match u.query with
      | some q => '?' :: q
      | none => []) ++
    (match u.fragment with
      | some f => '#' :: f
      | none => []))

/-- The text of a URL. -/
def toText (u : Url) : String := String.ofList u.text

end Url

end Dataflow
