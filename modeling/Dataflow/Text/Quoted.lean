import Dataflow.Text.Visible

/-!
# Quoting for a message

A text that is shown inside a message stands in double quotes, on one line: characters that do
not show are written as escapes.
-/

namespace Dataflow.Text

/-- The code point of a character in hexadecimal digits, in braces. -/
def bracedCodePoint (c : Char) : List Char := '{' :: (Nat.toDigits 16 c.toNat ++ ['}'])

/-- A character as it is shown between quotes. -/
def shownChar (c : Char) : List Char :=
  if c == '"' then ['\\', '"']
  else if c == '\\' then ['\\', '\\']
  else if c == '\n' then ['\\', 'n']
  else if c == '\r' then ['\\', 'r']
  else if c == '\t' then ['\\', 't']
  else if c == '\x00' then ['\\', '0']
  else if isVisible c then [c]
  else '\\' :: 'u' :: bracedCodePoint c

/-- A text in quotes, as it is shown in a message. -/
def shown (s : String) : String :=
  String.ofList ('"' :: (s.toList.flatMap shownChar ++ ['"']))

end Dataflow.Text
