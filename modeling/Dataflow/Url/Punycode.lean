/-!
# Punycode

A label with characters beyond ASCII is written with ASCII letters: first its ASCII characters,
then, after a hyphen, where the others are to be put in. These insertions are taken in the order of
the characters and, for one character, in the order of the places; each is a number in a mixed
base that adapts to the numbers before.
-/

namespace Dataflow.Url.Punycode

/-- The digit of a value: letters first, then the decimal digits. -/
def digitChar (d : Nat) : Char := if d < 26 then Char.ofNat (97 + d) else Char.ofNat (22 + d)

/-- The value of a digit. -/
def digitValue? (c : Char) : Option Nat :=
  if c.isLower then some (c.toNat - 97)
  else if c.isUpper then some (c.toNat - 65)
  else if c.isDigit then some (c.toNat - 22)
  else none

/-- The threshold at the position `36 * (i + 1)`: digits below it end a number. -/
def threshold (i bias : Nat) : Nat := max 1 (min 26 (36 * (i + 1) - bias))

/-- Divides by 35 until the number is small; counts the divisions. -/
def shrink (n : Nat) : Nat × Nat :=
  if n > 455 then
    let (m, k) := shrink (n / 35)
    (m, k + 1)
  else (n, 0)
termination_by n
decreasing_by omega

/-- The bias after a number, when `count` characters have been placed. -/
def adapt (delta count : Nat) (first : Bool) : Nat :=
  let d := if first then delta / 700 else delta / 2
  let (m, k) := shrink (d + d / count)
  36 * k + 36 * m / (m + 38)

/-- A number in the mixed base. -/
def encodeNumber (bias i n : Nat) : List Char :=
  let t := threshold i bias
  if n < t then [digitChar n]
  else digitChar (t + (n - t) % (36 - t)) :: encodeNumber bias (i + 1) ((n - t) / (36 - t))
termination_by n
decreasing_by
  have ht : 1 ≤ threshold i bias := by unfold threshold; omega
  have := Nat.div_le_self (n - threshold i bias) (36 - threshold i bias)
  omega

/-- What is known between two insertions. -/
structure State where
  /-- The output so far, last part first. -/
  output : List (List Char)
  delta : Nat
  bias : Nat
  /-- How many characters have been placed. -/
  placed : Nat
  first : Bool

/-- Goes on by one character of the label while the characters equal to `n` are placed. -/
def place (n : Nat) (s : State) (c : Char) : State :=
  if c.toNat < n then { s with delta := s.delta + 1 }
  else if c.toNat == n then
    { output := encodeNumber s.bias 0 s.delta :: s.output
      delta := 0
      bias := adapt s.delta (s.placed + 1) s.first
      placed := s.placed + 1
      first := false }
  else s

/-- Places the characters of the given code points, in ascending order from `low` on. -/
def placeAll (label : List Char) (low : Nat) (s : State) : List Nat → State
  | [] => s
  | n :: rest =>
    let s := { s with delta := s.delta + (n - low) * (s.placed + 1) }
    let s := label.foldl (place n) s
    placeAll label (n + 1) { s with delta := s.delta + 1 } rest

/-- The ASCII form of a label. -/
def encode (label : List Char) : List Char :=
  let basic := label.filter fun c => c.toNat < 128
  let others := ((label.filter fun c => 128 ≤ c.toNat).map Char.toNat).mergeSort
  let s := placeAll label 128 ⟨[], 0, 72, basic.length, true⟩ others.eraseDups
  basic ++ (if basic.isEmpty then [] else ['-']) ++ s.output.reverse.flatten

/-- Reads a number in the mixed base. -/
def decodeNumber (bias i weight sum : Nat) : List Char → Option (Nat × List Char)
  | [] => none
  | c :: rest => do
    let d ← digitValue? c
    let t := threshold i bias
    if d < t then return (sum + d * weight, rest)
    else decodeNumber bias (i + 1) (weight * (36 - t)) (sum + d * weight) rest

/-- Puts the characters in, one for each number. -/
def insertAll (fuel : Nat) (label : List Char) (n place bias : Nat) (first : Bool)
    (s : List Char) : Option (List Char) :=
  match fuel, s with
  | _, [] => some label
  | 0, _ => none
  | fuel + 1, s => do
    let (delta, rest) ← decodeNumber bias 0 1 0 s
    let size := label.length + 1
    let n := n + (place + delta) / size
    let here := (place + delta) % size
    if !n.isValidChar then none
    else
      insertAll fuel (label.take here ++ Char.ofNat n :: label.drop here) n (here + 1)
        (adapt delta size first) false rest

/-- The label of an ASCII form. -/
def decode? (s : List Char) : Option (List Char) :=
  let basic := (s.reverse.dropWhile (· != '-')).drop 1 |>.reverse
  let rest := if s.contains '-' then (s.reverse.takeWhile (· != '-')).reverse else s
  insertAll (s.length + 1) basic 128 0 72 true rest

end Dataflow.Url.Punycode
