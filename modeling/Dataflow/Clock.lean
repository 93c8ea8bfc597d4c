import Dataflow.Decimal.Fixed

/-!
# Time

A clock counts whole milliseconds. A pause is asked for in seconds; it is rounded to whole
nanoseconds and ends with the first millisecond that is not before its end.
-/

namespace Dataflow.Clock

/-- Ticks as seconds: the nearest double to the whole seconds plus that to the fraction. -/
def seconds (ticks : Nat) : Float :=
  Float.ofNat (ticks / 1000) + Float.ofNat (ticks % 1000 * 1000000) / 1e9

/-- The ticks of a number of whole seconds. -/
def ofSeconds (seconds : Nat) : Nat := seconds * 1000

/-- A non-negative finite number of seconds, rounded to nanoseconds, a half to the even one. -/
def nanoseconds (seconds : Float) : Nat := (Decimal.Dyadic.ofFloat seconds).scaledRound 9

/-- The ticks that pass until a pause is over. -/
def ticksToCover (nanoseconds : Nat) : Nat := (nanoseconds + 999999) / 1000000

/-- The whole milliseconds in a pause. -/
def wholeTicks (nanoseconds : Nat) : Nat := nanoseconds / 1000000

end Dataflow.Clock
