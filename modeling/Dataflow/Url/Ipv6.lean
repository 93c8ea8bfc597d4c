import Dataflow.Url.Ipv4

/-!
# IPv6 addresses

An address is eight pieces of 16 bits. Two colons stand once for a run of zero pieces, and the
last two pieces may be written as an IPv4 address.
-/

namespace Dataflow.Url

/-- An IPv6 address: eight pieces. -/
structure Ipv6 where
  pieces : List (BitVec 16)
  length_eq : pieces.length = 8
deriving DecidableEq

namespace Ipv6

/-- The address of eight pieces. -/
def ofPieces? (pieces : List Nat) : Option Ipv6 :=
  let words := pieces.map (BitVec.ofNat 16)
  if h : words.length = 8 then some ⟨words, h⟩ else none

/-- A piece: one to four hexadecimal digits. -/
def piece? (s : List Char) : Option Nat :=
  if s.isEmpty || s.length > 4 || !s.all Text.isHexDigit then none
  else some (Ipv4.ofDigits 16 s)

/-- A decimal number below 256 without superfluous zeros. -/
def octet? (s : List Char) : Option Nat :=
  if s.isEmpty || !s.all Char.isDigit || (s.length > 1 && s.head? == some '0') then none
  else
    let n := Decimal.natOfDigits s
    if n < 256 then some n else none

/-- The two pieces written as an IPv4 address in its usual form. -/
def embedded? (s : List Char) : Option (List Nat) :=
  match (Text.splitOn '.' s).mapM octet? with
  | some [a, b, c, d] => some [a * 256 + b, c * 256 + d]
  | _ => none

/-- The pieces between single colons; an IPv4 address may stand at the end. -/
def pieces? : List (List Char) → Option (List Nat)
  | [] => some []
  | [last] => if last.contains '.' then embedded? last else (piece? last).map fun n => [n]
  | s :: rest => do
    let n ← piece? s
    let more ← pieces? rest
    return n :: more

/-- The pieces of a side of the two colons; the empty text has none. -/
def side? (s : List Char) : Option (List Nat) :=
  if s.isEmpty then some [] else pieces? (Text.splitOn ':' s)

/-- The address that a text writes. -/
def parse? (s : List Char) : Option Ipv6 :=
  match Text.cutAtText [':', ':'] s with
  | none => (side? s).bind ofPieces?
  | some (before, after) => do
    -- an IPv4 address ends the text, so there is none before the colons
    if before.contains '.' then none
    let high ← side? before
    let low ← side? after
    if high.length + low.length > 7 then none
    else ofPieces? (high ++ List.replicate (8 - high.length - low.length) 0 ++ low)

/-- The length of the run of zeros at the start. -/
def zeroRun (pieces : List Nat) : Nat := (pieces.takeWhile (· == 0)).length

/-- The start and the length of the first longest run of zeros. -/
def longestRun (pieces : List Nat) : Nat × Nat :=
  (List.range pieces.length).foldl
    (fun best i => if zeroRun (pieces.drop i) > best.2 then (i, zeroRun (pieces.drop i)) else best)
    (0, 0)

/-- Pieces with single colons between them. -/
def piecesText (pieces : List Nat) : List Char :=
  List.intercalate [':'] (pieces.map (Nat.toDigits 16))

/-- The usual text of an address: the first longest run of at least two zeros is left out. -/
def text (a : Ipv6) : List Char :=
  let ns := a.pieces.map BitVec.toNat
  let (start, length) := longestRun ns
  if length < 2 then piecesText ns
  else piecesText (ns.take start) ++ [':', ':'] ++ piecesText (ns.drop (start + length))

/-- The IPv4 address that an address maps. -/
def mapped? (a : Ipv6) : Option Ipv4 :=
  match a.pieces.map BitVec.toNat with
  | [0, 0, 0, 0, 0, 0xFFFF, high, low] => some (BitVec.ofNat 32 (high * 0x10000 + low))
  | _ => none

end Ipv6

/-- The IPv4 address that a text writes in its usual form. -/
def Ipv4.ofDotted? (s : List Char) : Option Ipv4 :=
  match (Text.splitOn '.' s).mapM Ipv6.octet? with
  | some [b0, b1, b2, b3] => some (ofOctets b0 b1 b2 b3)
  | _ => none

end Dataflow.Url
