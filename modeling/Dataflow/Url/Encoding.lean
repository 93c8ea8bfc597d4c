import Dataflow.Text.Percent

/-!
# What is encoded in a URL

Each part of a URL has its own set of characters that are percent-encoded; controls and all that is
not ASCII always are. Queries made of pairs are encoded as forms are.
-/

namespace Dataflow.Url

/-- Whether a character is a control or not ASCII. -/
def isControl (c : Char) : Bool := c.toNat < 0x20 || 0x7F ≤ c.toNat

/-- Whether a character stands for itself in a part that does not allow the given marks. -/
def safeBut (marks : String) (c : Char) : Bool := !isControl c && !marks.toList.contains c

def safeInOpaque (c : Char) : Bool := !isControl c
def safeInFragment (c : Char) : Bool := safeBut " \"<>`" c
def safeInPath (c : Char) : Bool := safeBut " \"<>`#?\x7b\x7d" c
def safeInUserinfo (c : Char) : Bool := safeBut " \"<>`#?\x7b\x7d/:;=@[\\]^|" c
def safeInQuery (c : Char) : Bool := safeBut " \"#<>" c
def safeInSpecialQuery (c : Char) : Bool := safeBut " \"#<>'" c

/-- A byte in a form. -/
def formByte (b : Nat) : List Char :=
  let c := Char.ofNat b
  if b == 0x20 then ['+']
  else if b < 0x80 && (c.isAlphanum || "*-._".toList.contains c) then [c]
  else Text.percentByte b

/-- A text in a form. -/
def formText (s : String) : List Char := s.toList.flatMap fun c => (Text.utf8Bytes c).flatMap formByte

/-- A pair of a form. -/
def formPair (key value : String) : List Char := formText key ++ '=' :: formText value

/-- A query with pairs added to it. A query that is empty in the end is none. -/
def extendQuery (query : Option (List Char)) (pairs : List (String × String)) :
    Option (List Char) :=
  let old := query.getD []
  let new := pairs.map fun (key, value) => formPair key value
  let all := List.intercalate ['&'] (if old.isEmpty then new else old :: new)
  if all.isEmpty then none else some all

end Dataflow.Url
