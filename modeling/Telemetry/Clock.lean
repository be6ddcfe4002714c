import Telemetry.Duration
/-!
A clock that is moved by hand: a wall reading in milliseconds, which stamps exported samples, and
a monotonic reading in nanoseconds, by which durations are measured. Both are machine words. A clock
of the machine would move by itself and is left out.
-/
namespace Telemetry

/-- The two readings of a clock. -/
structure Clock where
  wallMillis : Int64
  nanos : UInt64
deriving DecidableEq

namespace Clock

/-- A clock at a wall time, its monotonic reading at zero (`MockClock::at_wall_millis`). -/
def atWallMillis (millis : Int) : Clock := ⟨.ofInt millis, 0⟩

/-- The largest step of the wall reading. -/
def largestMillis : Nat := 2 ^ 63 - 1

/-- Moves both readings on (`MockClock::add`). The amount is cut to what a word can hold; the
readings wrap. -/
def advance (clock : Clock) (amount : Duration) : Clock :=
  ⟨clock.wallMillis + .ofNat (min amount.milliseconds largestMillis),
   clock.nanos + amount.clampedWord⟩

/-- The time from an earlier monotonic reading until now (`elapsed_since`); nothing if the reading
is a later one. -/
def since (clock : Clock) (start : UInt64) : Duration := ⟨clock.nanos.toNat - start.toNat⟩

end Clock
end Telemetry
