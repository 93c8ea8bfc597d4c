import Dataflow.Text.Hex
import Dataflow.Text.Pieces
import Dataflow.Decimal.Numeral

/-!
# IPv4 addresses

An address may be written with one to four parts between dots, each decimal, octal or
hexadecimal; the last part stands for all bytes that are left.
-/

namespace Dataflow.Url

/-- An IPv4 address as one number. -/
abbrev Ipv4 := BitVec 32

namespace Ipv4

/-- The four bytes of an address. -/
def octets (a : Ipv4) : List Nat :=
  [a.toNat / 0x1000000, a.toNat / 0x10000 % 256, a.toNat / 0x100 % 256, a.toNat % 256]

/-- The address of four bytes. -/
def ofOctets (b0 b1 b2 b3 : Nat) : Ipv4 :=
  BitVec.ofNat 32 (((b0 * 256 + b1) * 256 + b2) * 256 + b3)

/-- The usual text of an address. -/
def text (a : Ipv4) : List Char :=
  List.intercalate ['.'] (a.octets.map (Nat.toDigits 10))

/-- The number written by digits of a base. -/
def ofDigits (base : Nat) (ds : List Char) : Nat :=
  ds.foldl (fun n c => n * base + (Text.hexValue? c).getD 0) 0

/-- Whether all characters are digits of the base. -/
def allDigits (base : Nat) (ds : List Char) : Bool :=
  ds.all fun c => (Text.hexValue? c).any (· < base)

/-- The number that a part of an address is; a leading zero tells the base. -/
def partNumber? (part : List Char) : Option Nat :=
  let (base, ds) := match part with
    | '0' :: 'x' :: rest => (16, rest)
    | '0' :: 'X' :: rest => (16, rest)
    | '0' :: c :: rest => (8, c :: rest)
    | ds => (10, ds)
  if part.isEmpty || !allDigits base ds then none else some (ofDigits base ds)

/-- The parts between dots, without an empty one at the end. -/
def parts (s : List Char) : List (List Char) :=
  let pieces := Text.splitOn '.' s
  if pieces.length > 1 && pieces.getLast? == some [] then pieces.dropLast else pieces

/-- Whether a host name ends in a number, so that it must be an address. -/
def endsInNumber (s : List Char) : Bool :=
  match (parts s).getLast? with
  | none => false
  | some last => (!last.isEmpty && last.all Char.isDigit) || (partNumber? last).isSome

/-- The address of numbers for its parts. -/
def ofNumbers? (numbers : List Nat) : Option Ipv4 :=
  match numbers.reverse with
  | [] => none
  | last :: front =>
    if front.length > 3 || front.any (255 < ·) || last ≥ Nat.pow 256 (4 - front.length) then none
    else
      let weigh (sum : Nat) (part : Nat × Nat) : Nat := sum + part.1 * Nat.pow 256 (3 - part.2)
      some (BitVec.ofNat 32 (front.reverse.zipIdx.foldl weigh last))

/-- The address that a text writes. -/
def parse? (s : List Char) : Option Ipv4 :=
  if (parts s).length > 4 then none
  else ((parts s).mapM partNumber?).bind ofNumbers?

end Ipv4

end Dataflow.Url
