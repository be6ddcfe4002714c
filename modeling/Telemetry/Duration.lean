import Telemetry.Binary64.Basic
/-!
Lengths of time in whole nanoseconds.
-/
namespace Telemetry

/-- A length of time. -/
structure Duration where
  nanoseconds : Nat
deriving DecidableEq, Repr

namespace Duration

/-- No time at all. -/
def zero : Duration := ⟨0⟩

instance : Inhabited Duration := ⟨zero⟩

/-- So many milliseconds. -/
def ofMilliseconds (n : Nat) : Duration := ⟨n * 1000000⟩

/-- So many seconds. -/
def ofSeconds (n : Nat) : Duration := ⟨n * 1000000000⟩

/-- A number of nanoseconds cut to a 64-bit word. -/
def clampedWord (d : Duration) : UInt64 := .ofNat (min d.nanoseconds Binary64.largestWord)

/-- The whole milliseconds. -/
def milliseconds (d : Duration) : Nat := d.nanoseconds / 1000000

/-- The length in seconds (`Duration::as_secs_f64`): the whole seconds and the fraction are rounded
apart, then their sum. -/
def seconds (d : Duration) : Binary64 :=
  .ofNat (d.nanoseconds / 1000000000) +
    .ofNat (d.nanoseconds % 1000000000) / .ofNat 1000000000

/-- The sum of some lengths. -/
def sum (ds : List Duration) : Duration := ⟨(ds.map nanoseconds).sum⟩

end Duration
end Telemetry
