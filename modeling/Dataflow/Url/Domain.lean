import Dataflow.Url.Folded
import Dataflow.Url.Punycode
import Dataflow.Text.Composed
import Dataflow.Text.Joining
import Dataflow.Text.Pieces
import Dataflow.Text.Blank

/-!
# Domain names

A domain name is brought into its ASCII form: characters are folded and composed, labels in
Punycode are read, each label is checked, and labels with characters beyond ASCII are written in
Punycode after the mark `xn--`. A name with a label that runs from right to left is checked as a
whole, too.
-/

namespace Dataflow.Url

/-- What a character stands for by a row of characters that each stand for one. -/
def letterIn? (n : Nat) (row : Nat × String) : Option (List Char) :=
  if n < row.1 then none else row.2.toList[n - row.1]?.map fun c => [c]

/-- What a character stands for by a row of characters that each stand for a word. -/
def wordIn? (n : Nat) (row : Nat × String) : Option (List Char) :=
  if n < row.1 then none else (Text.splitOn ' ' row.2.toList)[n - row.1]?

/-- What a character beyond ASCII stands for, if it is not itself. -/
def expansion? (c : Char) : Option (List Char) :=
  if Text.inRanges droppedRanges c.toNat then some []
  else ((Text.CaseRun.shift? foldedRuns c).map fun d => [d])
    <|> foldedLetters.findSome? (letterIn? c.toNat)
    <|> foldedWords.findSome? (wordIn? c.toNat)

/-- What a character of a host name stands for, in small letters. -/
def foldChar (c : Char) : List Char :=
  (if c.toNat < 0x80 then [c] else (expansion? c).getD [c]).map Char.toLower

/-- The ASCII characters that no domain name holds. -/
def isForbidden (c : Char) : Bool :=
  c.toNat ≤ 0x20 || c.toNat == 0x7F || "%#/:<>?@[\\]^|".toList.contains c

/-- Whether a character can be in a domain name as it is. -/
def isDomainChar (c : Char) : Bool :=
  if c.toNat < 0x80 then !isForbidden c && !c.isUpper
  else !Text.inRanges barredRanges c.toNat && (expansion? c).isNone

/-- Whether a label is made of characters that can be in one, at their places. -/
def validLabel (label : List Char) : Bool :=
  label.all isDomainChar && !label.head?.any Text.isCombining && Text.signsFit [] label

/-- The mark of a label in Punycode. -/
def punycodeMark : List Char := ['x', 'n', '-', '-']

/-- The length up to which a label is read from Punycode. -/
def maxCodedLength : Nat := 2000

/-- The length up to which a label is written in Punycode. -/
def maxPlainLength : Nat := 1000

/-- The label for which a label in Punycode stands, without its mark. It must be a proper label that
cannot be written in another way. -/
def decodeLabel? (coded : List Char) : Option (List Char) :=
  if !Text.isAscii coded || maxCodedLength < coded.length then none
  else (Punycode.decode? coded).filter fun plain =>
    !Text.isAscii plain && (Text.dropStart? punycodeMark plain).isNone && validLabel plain &&
      Text.composed plain == plain && Punycode.encode plain == coded

/-- The label for which a folded and composed label stands. -/
def plainLabel? (label : List Char) : Option (List Char) :=
  match Text.dropStart? punycodeMark label with
  | some coded => decodeLabel? coded
  | none => if validLabel label then some label else none

/-- The ASCII form of a proper label. -/
def labelToAscii? (label : List Char) : Option (List Char) :=
  if Text.isAscii label then some label
  else if maxPlainLength < label.length then none
  else some (punycodeMark ++ Punycode.encode label)

/-- Whether the labels of a name can stand beside each other: if one runs from right to left, then
each must keep its direction. -/
def directionsFit (labels : List (List Char)) : Bool :=
  !labels.any Text.runsLeft || labels.all Text.keepsDirection

/-- The ASCII form of a domain name. -/
def domainToAscii? (name : List Char) : Option (List Char) := do
  let labels ← (Text.splitOn '.' (Text.composed (name.flatMap foldChar))).mapM plainLabel?
  if !directionsFit labels then none
  else return List.intercalate ['.'] (← labels.mapM labelToAscii?)

end Dataflow.Url
