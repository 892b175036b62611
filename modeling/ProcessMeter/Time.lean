import ProcessMeter.Number.Double

/-!
# Time

Spans of time and moments are whole numbers of nanoseconds, so sums and differences are exact. A
moment can lie before the epoch, a span is never negative.
-/

namespace ProcessMeter

/-- The nanoseconds in a second. -/
def nanosPerSecond : Nat := 1000000000

/-- A span of time. -/
structure Duration where
  /-- Its length in nanoseconds. -/
  nanos : Nat
  deriving DecidableEq, Repr, Inhabited

namespace Duration

/-- The empty span. -/
def zero : Duration := ⟨0⟩

/-- A span of whole nanoseconds. -/
def ofNanos (n : Nat) : Duration := ⟨n⟩

/-- A span of whole microseconds. -/
def ofMicros (n : Nat) : Duration := ⟨n * 1000⟩

/-- A span of whole milliseconds. -/
def ofMillis (n : Nat) : Duration := ⟨n * 1000000⟩

/-- A span of whole seconds. -/
def ofSeconds (n : Nat) : Duration := ⟨n * nanosPerSecond⟩

/-- A span of clock ticks, of which `hz` make a second, cut to whole nanoseconds. -/
def ofTicks (hz ticks : Nat) : Duration :=
  ⟨ticks / hz * nanosPerSecond + ticks % hz * nanosPerSecond / hz⟩

/-- The whole seconds of the span. -/
def wholeSeconds (d : Duration) : Nat := d.nanos / nanosPerSecond

/-- The nanoseconds beyond the whole seconds. -/
def subsecNanos (d : Duration) : Nat := d.nanos % nanosPerSecond

/-- The span in seconds as a double: the whole seconds, plus the rest over `10 ^ 9`. -/
def seconds (d : Duration) : Float :=
  Double.ofNat64 d.wholeSeconds + Double.ofNat64 d.subsecNanos / Double.ofNat64 nanosPerSecond

/-- Both spans one after the other. -/
def add (a b : Duration) : Duration := ⟨a.nanos + b.nanos⟩

/-- What is left of a span after `b`, nothing if `b` is longer. -/
def less (a b : Duration) : Duration := ⟨a.nanos - b.nanos⟩

end Duration

/-- A point in time. -/
structure Moment where
  /-- The nanoseconds since the epoch, negative before it. -/
  nanos : Int
  deriving DecidableEq, Repr, Inhabited

namespace Moment

/-- The span from `earlier` to this moment, if that is not the later of the two. -/
def since (now earlier : Moment) : Option Duration :=
  if earlier.nanos ≤ now.nanos then some ⟨(now.nanos - earlier.nanos).toNat⟩ else none

/-- The moment that lies `d` later. -/
def later (t : Moment) (d : Duration) : Moment := ⟨t.nanos + d.nanos⟩

end Moment

end ProcessMeter
