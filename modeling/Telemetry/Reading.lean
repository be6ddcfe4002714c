import Telemetry.Decimal.Layout
import Telemetry.Duration
import Telemetry.Meter.Id
/-!
What meters show at one moment, and the single numbers a reading is flattened to for backends
that take one number a line. Durations become seconds.
-/
namespace Telemetry

/-- The values of one meter (`MeterValue`). -/
inductive Value where
  | counter (count : Nat)
  | gauge (value : Binary64)
  | timer (count : Nat) (total max : Duration) (quantiles : List (Binary64 × Duration))
  | longTaskTimer (active : Nat) (duration : Duration)
deriving DecidableEq

/-- The reading of one meter (`MeterSnapshot`). -/
structure Reading where
  id : MeterId
  value : Value
deriving DecidableEq

/-- Readings of many meters, taken together. -/
abbrev Snapshot := List Reading

/-- Which aspect of a meter a number tells. -/
inductive Statistic where
  | count
  | value
  | total
  | max
  | mean
  | active
  | duration
  | quantile (q : Binary64)
deriving DecidableEq

/-- The last part of a number's name (`Statistic::suffix`). A quantile is named by its nearest
thousandth. -/
def Statistic.suffix : Statistic → String
  | count => "count"
  | value => "value"
  | total => "sum"
  | max => "max"
  | mean => "mean"
  | active => "activeTasks"
  | duration => "duration"
  | quantile q => "p" ++ String.ofList (Decimal.digitText (q * .ofNat 1000).roundWord)

/-- One number of a reading. -/
structure Measurement where
  statistic : Statistic
  value : Binary64
deriving DecidableEq

/-- The average of a timer in seconds; zero if it saw nothing. -/
def meanSeconds (count : Nat) (total : Duration) : Binary64 :=
  if count = 0 then .zero else total.seconds / .ofNat count

/-- The numbers of one reading (`MeterSnapshot::measurements`). -/
def Reading.measurements (reading : Reading) : List Measurement :=
  match reading.value with
  | .counter count => [⟨.count, .ofNat count⟩]
  | .gauge value => [⟨.value, value⟩]
  | .timer count total max quantiles =>
    [⟨.count, .ofNat count⟩, ⟨.total, total.seconds⟩, ⟨.max, max.seconds⟩,
     ⟨.mean, meanSeconds count total⟩] ++
      quantiles.map fun (q, value) => ⟨.quantile q, value.seconds⟩
  | .longTaskTimer active duration => [⟨.active, .ofNat active⟩, ⟨.duration, duration.seconds⟩]

end Telemetry
