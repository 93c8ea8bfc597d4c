import Dataflow.Text.Utf8
import Dataflow.Text.Hex

/-!
# Percent-encoding

A character outside a set of safe ones is replaced by the bytes of its UTF-8 form, each written
as a percent sign and two hexadecimal digits.
-/

namespace Dataflow.Text

/-- The bytes of the UTF-8 form of a character. -/
def utf8Bytes (c : Char) : List Nat :=
  let n := c.toNat
  if n < 0x80 then [n]
  else if n < 0x800 then [0xC0 + n / 0x40, 0x80 + n % 0x40]
  else if n < 0x10000 then [0xE0 + n / 0x1000, 0x80 + n / 0x40 % 0x40, 0x80 + n % 0x40]
  else
    [0xF0 + n / 0x40000, 0x80 + n / 0x1000 % 0x40, 0x80 + n / 0x40 % 0x40, 0x80 + n % 0x40]

/-- A hexadecimal digit, in upper case. -/
def upperHexDigit (n : Nat) : Char := (Nat.digitChar n).toUpper

/-- A byte as a percent sign and two hexadecimal digits. -/
def percentByte (b : Nat) : List Char := ['%', upperHexDigit (b / 16), upperHexDigit (b % 16)]

/-- A character, percent-encoded unless it is safe. -/
def percentChar (safe : Char → Bool) (c : Char) : List Char :=
  if safe c then [c] else (utf8Bytes c).flatMap percentByte

/-- A text with every character that is not safe percent-encoded. -/
def percentEncode (safe : Char → Bool) (s : List Char) : List Char :=
  s.flatMap (percentChar safe)

/-- ASCII letters and digits, and the four marks `-`, `_`, `.` and `~`. -/
def isUnreserved (c : Char) : Bool :=
  c.isAlphanum || c == '-' || c == '_' || c == '.' || c == '~'

/-- A text as one component of a URL. -/
def percentEncodeComponent (s : String) : String :=
  String.ofList (percentEncode isUnreserved s.toList)

/-- The bytes of a text in which encoded bytes stand for themselves; a percent sign without two
hexadecimal digits stands for itself, too. -/
def percentDecode : List Char → List Nat
  | [] => []
  | '%' :: a :: b :: rest =>
    match hexValue? a, hexValue? b with
    | some high, some low => (high * 16 + low) :: percentDecode rest
    | _, _ => 0x25 :: percentDecode (a :: b :: rest)
  | c :: rest => utf8Bytes c ++ percentDecode rest

end Dataflow.Text
