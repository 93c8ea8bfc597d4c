import Dataflow.Json.Basic

/-!
# The text of a JSON value

`Json.compact` writes a value without any blank. `Json.indented` puts each member of a container
on a line of its own, indented by two blanks per level.
-/

namespace Dataflow.Json

/-- A hexadecimal digit, in lower case. -/
def hexDigit (n : Nat) : Char := Nat.digitChar n

/-- A character inside quotes: the quote, the backslash and the control characters are escaped. -/
def escaped (c : Char) : List Char :=
  if c == '"' then ['\\', '"']
  else if c == '\\' then ['\\', '\\']
  else if c == '\n' then ['\\', 'n']
  else if c == '\r' then ['\\', 'r']
  else if c == '\t' then ['\\', 't']
  else if c == '\x08' then ['\\', 'b']
  else if c == '\x0c' then ['\\', 'f']
  else if c.toNat < 0x20 then
    ['\\', 'u', '0', '0', hexDigit (c.toNat / 16), hexDigit (c.toNat % 16)]
  else [c]

/-- A string in quotes. -/
def quoted (s : String) : List Char := '"' :: (s.toList.flatMap escaped ++ ['"'])

mutual

/-- The compact text of a value. -/
def compactChars : Json → List Char
  | .null => ['n', 'u', 'l', 'l']
  | .bool true => ['t', 'r', 'u', 'e']
  | .bool false => ['f', 'a', 'l', 's', 'e']
  | .number n => n.text
  | .string s => quoted s
  | .array items => '[' :: (compactItems items ++ [']'])
  | .object fields => '{' :: (compactFields fields ++ ['}'])

/-- The members of an array, with commas between them. -/
def compactItems : List Json → List Char
  | [] => []
  | [v] => compactChars v
  | v :: w :: rest => compactChars v ++ ',' :: compactItems (w :: rest)

/-- The members of an object, with commas between them. -/
def compactFields : List (String × Json) → List Char
  | [] => []
  | [(k, v)] => quoted k ++ ':' :: compactChars v
  | (k, v) :: w :: rest => quoted k ++ ':' :: (compactChars v ++ ',' :: compactFields (w :: rest))

end

/-- The compact text of a value. -/
def compact (v : Json) : String := String.ofList (compactChars v)

/-- The start of a line at a level of nesting. -/
def newline (level : Nat) : List Char := '\n' :: List.replicate (2 * level) ' '

mutual

/-- The indented text of a value at a level of nesting. -/
def indentedChars (level : Nat) : Json → List Char
  | .array (v :: rest) =>
    '[' :: (indentedItems (level + 1) (v :: rest) ++ newline level ++ [']'])
  | .object (f :: rest) =>
    '{' :: (indentedFields (level + 1) (f :: rest) ++ newline level ++ ['}'])
  | .array [] => ['[', ']']
  | .object [] => ['{', '}']
  | .null => ['n', 'u', 'l', 'l']
  | .bool b => compactChars (.bool b)
  | .number n => n.text
  | .string s => quoted s

/-- The members of an array, each on its line. -/
def indentedItems (level : Nat) : List Json → List Char
  | [] => []
  | [v] => newline level ++ indentedChars level v
  | v :: w :: rest =>
    newline level ++ indentedChars level v ++ ',' :: indentedItems level (w :: rest)

/-- The members of an object, each on its line. -/
def indentedFields (level : Nat) : List (String × Json) → List Char
  | [] => []
  | [(k, v)] => newline level ++ quoted k ++ ':' :: ' ' :: indentedChars level v
  | (k, v) :: w :: rest =>
    newline level ++ quoted k ++ ':' :: ' ' :: indentedChars level v ++
      ',' :: indentedFields level (w :: rest)

end

/-- The indented text of a value. -/
def indented (v : Json) : String := String.ofList (indentedChars 0 v)

/-- A string stands for itself, any other value for its compact text. -/
def plainText : Json → String
  | .string s => s
  | v => compact v

end Dataflow.Json
