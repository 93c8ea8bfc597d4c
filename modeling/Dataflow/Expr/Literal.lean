import Dataflow.Json.Basic
import Dataflow.Expr.Split
import Dataflow.Decimal.Numeral

/-!
# Literals

The three words, quoted texts that do not contain their own quotation mark, and numerals.
-/

namespace Dataflow.Expr

/-- The text between two equal quotation marks that does not contain the mark itself. -/
def unquote? : List Char → Option (List Char)
  | q :: rest =>
    if isQuote q then
      match rest.getLast? with
      | some last =>
        let inner := rest.dropLast
        if last == q && !inner.contains q then some inner else none
      | none => none
    else none
  | [] => none

/-- Whether a numeral may start with the character. -/
def startsNumeral (c : Char) : Bool := c.isDigit || c == '-' || c == '+' || c == '.'

/-- The number that a text denotes: an integer of 64 signed bits, or a finite double. -/
def readNumber? (s : List Char) : Option Json :=
  match s with
  | [] => none
  | c :: _ =>
    if startsNumeral c then
      match Decimal.readInt64 s with
      | some n => (Number.ofInt? n).map .number
      | none => ((Decimal.readFiniteFloat s).bind Number.ofFloat?).map .number
    else none

/-- The value of a literal. -/
def literal? (s : List Char) : Option Json :=
  if s = "true".toList then some (.bool true)
  else if s = "false".toList then some (.bool false)
  else if s = "null".toList then some .null
  else match unquote? s with
    | some inner => some (.string (String.ofList inner))
    | none => readNumber? s

end Dataflow.Expr
