/-!
# Escapes by code point

In quoted texts a character may be written as a letter and the hexadecimal digits of its code
point, after a backslash.
-/

namespace Dataflow.Text

/-- What part of an escape has been read. -/
inductive Escape where
  | none
  | backslash
  /-- The number of digits to come, and the value of those read. -/
  | digits (left value : Nat)

/-- The character with a code point, which is no surrogate. -/
def ofCodePoint? (n : Nat) : Option Char :=
  if n.isValidChar then some (Char.ofNat n) else none

end Dataflow.Text
