import ProcessMeter.Number.Numeral
import ProcessMeter.Time

/-!
# Usage between two readings

Counters only grow, so what was used between two readings is their difference over the time
between them. A counter that went backwards counts as unchanged. Shares are fractions, one
processor fully used being `1.0`, and all results have four decimal places.
-/

namespace ProcessMeter

namespace Usage

/-- A double rounded to four decimal places, halves away from zero. -/
def toFourPlaces (x : Float) : Float := (x * 10000).round / 10000

/-- The processor time used, as shares. -/
structure CpuShare where
  /-- Of one processor. -/
  share : Double
  /-- Of all processors. -/
  hostShare : Double
  deriving DecidableEq, Repr

/-- What a counter gained for each second between two readings, if time has passed. -/
def perSecond (previous current : Nat) (elapsed : Duration) : Option Double :=
  if elapsed.seconds ≤ 0 then none
  else some (.ofFloat <| toFourPlaces (Double.ofNat64 (current - previous) / elapsed.seconds))

/-- The processor time used between two readings, if time has passed. A host has at least one
processor. -/
def processorTime (previous current elapsed : Duration) (processors : Nat) : Option CpuShare :=
  if elapsed.seconds ≤ 0 then none
  else
    let share := (current.less previous).seconds / elapsed.seconds
    some {
      share := .ofFloat (toFourPlaces share)
      hostShare := .ofFloat (toFourPlaces (share / Double.ofNat64 (max processors 1))) }

/-- A part of a whole as a fraction, if the whole is anything. -/
def fraction (part whole : Nat) : Option Double :=
  if 0 < whole then
    some (.ofFloat <| toFourPlaces (Double.ofNat64 part / Double.ofNat64 whole))
  else none

end Usage

end ProcessMeter
