/-!
# Reading UTF-8

A list of bytes is cut into characters and faults. A fault is a longest stretch of bytes that
could start a character but goes on in no character, or a single byte that starts none.
-/

namespace Dataflow.Text

/-- How a character goes on after its first byte. -/
structure Lead where
  /-- The bits of the first byte. -/
  bits : Nat
  /-- How many bytes follow. -/
  count : Nat
  /-- The bounds of the byte that follows next. -/
  low : Nat
  high : Nat

/-- What the first byte of a character tells. -/
def Lead.ofByte? (b : Nat) : Option Lead :=
  if b < 0x80 then some ⟨b, 0, 0, 0⟩
  else if b < 0xC2 then none
  else if b < 0xE0 then some ⟨b - 0xC0, 1, 0x80, 0xBF⟩
  else if b < 0xF0 then
    some ⟨b - 0xE0, 2, if b == 0xE0 then 0xA0 else 0x80, if b == 0xED then 0x9F else 0xBF⟩
  else if b < 0xF5 then
    some ⟨b - 0xF0, 3, if b == 0xF0 then 0x90 else 0x80, if b == 0xF4 then 0x8F else 0xBF⟩
  else none

/-- Reads the bytes that follow the first one: the code point, or `none` for a fault, and the
bytes that are left. -/
def followBytes (bits count low high : Nat) (bytes : List Nat) : Option Nat × List Nat :=
  match count, bytes with
  | 0, rest => (some bits, rest)
  | _ + 1, [] => (none, [])
  | count + 1, b :: rest =>
    if low ≤ b && b ≤ high then followBytes (bits * 64 + (b - 0x80)) count 0x80 0xBF rest
    else (none, b :: rest)

theorem length_followBytes (bits count low high : Nat) (bytes : List Nat) :
    (followBytes bits count low high bytes).2.length ≤ bytes.length := by
  induction bytes generalizing bits count low high with
  | nil => cases count <;> simp [followBytes]
  | cons b rest ih =>
    cases count with
    | zero => simp [followBytes]
    | succ count =>
      simp only [followBytes]
      split
      · exact Nat.le_succ_of_le (ih ..)
      · exact Nat.le_refl _

/-- The character or fault at the start of the bytes, and the bytes that are left. -/
def nextUtf8 (b : Nat) (rest : List Nat) : Option Char × List Nat :=
  match Lead.ofByte? b with
  | none => (none, rest)
  | some lead =>
    let (found, left) := followBytes lead.bits lead.count lead.low lead.high rest
    (found.map Char.ofNat, left)

theorem length_nextUtf8 (b : Nat) (rest : List Nat) :
    (nextUtf8 b rest).2.length ≤ rest.length := by
  unfold nextUtf8
  split
  · exact Nat.le_refl _
  · exact length_followBytes ..

/-- The characters of a list of bytes, with `none` for every fault. -/
def utf8Pieces : List Nat → List (Option Char)
  | [] => []
  | b :: rest => (nextUtf8 b rest).1 :: utf8Pieces (nextUtf8 b rest).2
termination_by bytes => bytes.length
decreasing_by
  have := length_nextUtf8 b rest
  simp only [List.length_cons]
  omega

/-- The text of a list of bytes, if there is no fault in it. -/
def decodeUtf8? (bytes : List Nat) : Option (List Char) := (utf8Pieces bytes).mapM id

/-- The text of a list of bytes, with a replacement character for every fault. -/
def decodeUtf8Lossy (bytes : List Nat) : List Char :=
  (utf8Pieces bytes).map fun piece => piece.getD '\uFFFD'

end Dataflow.Text
