import Telemetry.Duration
/-!
What a timer holds: how many operations it saw, how long they took together, the longest of them,
and the most recent ones, over which quantiles are taken by nearest rank.
-/
namespace Telemetry

/-- How many recent samples quantiles are taken over. -/
def windowLength : Nat := 1024

/-- Leaves out every number that equals the one before it. -/
def dropRepeats : List Binary64 → List Binary64
  | [] => []
  | [q] => [q]
  | q :: next :: rest =>
    if q.sameValue next then dropRepeats (q :: rest) else q :: dropRepeats (next :: rest)

/-- The quantiles a timer keeps of those it is asked for (`QuantileWindow::new`): the ones from zero
to one, ascending, each once. -/
def normalQuantiles (asked : List Binary64) : List Binary64 :=
  dropRepeats ((asked.filter fun q => Binary64.zero.le q && q.le .one).mergeSort
    Binary64.placedBefore)

/-- The sample of nearest rank in an ascending list (`rank`); zero if there is none. -/
def nearestRank (sorted : List UInt64) (q : Binary64) : UInt64 :=
  let position := (q * .ofNat sorted.length).ceilWord
  sorted.getD (max 1 (min position sorted.length) - 1) 0

/-- The state of a timer (`Timer`). -/
structure Timings where
  count : UInt64
  totalNanos : UInt64
  maxNanos : UInt64
  /-- The quantiles to report, ascending. -/
  quantiles : List Binary64
  /-- The most recent samples, the latest first. -/
  recent : List UInt64
deriving DecidableEq

namespace Timings

/-- A timer that has seen nothing (`Timer::new`). -/
def new (quantiles : List Binary64) : Timings := ⟨0, 0, 0, normalQuantiles quantiles, []⟩

/-- Takes one operation in (`Timer::record`). -/
def record (timings : Timings) (duration : Duration) : Timings :=
  let nanos := duration.clampedWord
  { timings with
    count := timings.count + 1
    totalNanos := timings.totalNanos + nanos
    maxNanos := max timings.maxNanos nanos
    recent := (nanos :: timings.recent).take windowLength }

/-- Takes so many operations in that all took the same time. -/
def recordTimes (timings : Timings) (duration : Duration) (times : Nat) : Timings :=
  if times = 0 then timings
  else
    let nanos := duration.clampedWord
    { timings with
      count := timings.count + .ofNat times
      totalNanos := timings.totalNanos + .ofNat (times * nanos.toNat)
      maxNanos := max timings.maxNanos nanos
      recent := (List.replicate (min times windowLength) nanos ++ timings.recent).take windowLength }

/-- The time of all operations together (`Timer::total_time`). -/
def total (timings : Timings) : Duration := ⟨timings.totalNanos.toNat⟩

/-- The longest operation (`Timer::max`). -/
def max (timings : Timings) : Duration := ⟨timings.maxNanos.toNat⟩

/-- The largest number that a total is divided by. -/
def largestDivisor : Nat := 2 ^ 32 - 1

/-- The time of an average operation in whole nanoseconds (`Timer::mean`). -/
def mean (timings : Timings) : Duration :=
  ⟨timings.totalNanos.toNat / min timings.count.toNat largestDivisor⟩

/-- The quantiles with their current values (`Timer::quantile_values`). -/
def quantileValues (timings : Timings) : List (Binary64 × Duration) :=
  let sorted := timings.recent.mergeSort
  timings.quantiles.map fun q => (q, ⟨(nearestRank sorted q).toNat⟩)

/-- The current value of one quantile in seconds; zero if the timer does not keep it. -/
def quantileSeconds (timings : Timings) (q : Binary64) : Binary64 :=
  match timings.quantileValues.find? (·.1.sameValue q) with
  | some (_, value) => value.seconds
  | none => .zero

end Timings
end Telemetry
