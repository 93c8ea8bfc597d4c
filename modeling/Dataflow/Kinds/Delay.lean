import Dataflow.Kinds.Handler
import Dataflow.Clock

/-!
# Delay nodes

A delay node pauses for a while and passes its inputs on.
-/

namespace Dataflow.Kinds

/-- The longest pause, in seconds. -/
def longestDelay : Float := 30

/-- The pause of a node that is told none, in seconds. -/
def defaultDelay : Float := 1

/-- A requested pause, held between zero and the longest; infinite ones are none at all. -/
def clampDelay (seconds : Float) : Float :=
  if !seconds.isFinite || seconds ≤ 0 then 0
  else if longestDelay < seconds then longestDelay
  else seconds

def secondsField : Field Json (Option Float) :=
  .withDefault "seconds" Json.readLenientNumber none

/-- Reads the requested seconds off the configuration. -/
def readSeconds : Json → Decoded (Option Float) :=
  Record.read "DelayConfig" [secondsField.toCheck] fun r => r.get secondsField

/-- Pauses, and yields the inputs. -/
def runDelay {σ : Type} : Handler σ := fun config inputs state =>
  match readConfig "Invalid delay config" readSeconds config with
  | .error e => .pure (.error e) state
  | .ok requested =>
    let pause := Clock.nanoseconds (clampDelay (requested.getD defaultDelay))
    { value := .ok ⟨.object inputs,
        .ofEntries [("waited_ms", .ofNat (Clock.wholeTicks pause))]⟩
      ticks := Clock.ticksToCover pause
      state }

end Dataflow.Kinds
