import Telemetry.Meter.Id
import Telemetry.Meter.LongTasks
import Telemetry.Meter.Timings
/-!
Meters: an id and the instrument behind it.
-/
namespace Telemetry

/-- A registered meter is reached through its handle, also after it left the registry. -/
structure Handle where
  index : Nat
deriving DecidableEq, Repr

instance : Inhabited Handle := ⟨⟨0⟩⟩

/-- A task that was started on a long-task timer (`LongTaskSample`). -/
structure Sample where
  timer : Handle
  task : Nat
deriving DecidableEq, Repr

/-- A number outside the registry that a gauge can be set upon. -/
inductive Probe where
  /-- A cell of the application. -/
  | cell (name : String)
  /-- Seconds since the process was started. -/
  | uptime
  /-- The moment of the start, in seconds of wall time. -/
  | startTime
  | processors
  /-- Worker threads of an executor. -/
  | workers
  /-- Tasks of an executor that wait for a worker. -/
  | queued
  /-- Tasks of an executor that are not finished. -/
  | active
deriving DecidableEq, Repr

/-- Where a gauge takes its value from when it is read. -/
inductive Source where
  | constant (value : Binary64)
  | probe (probe : Probe)
  /-- A quantile of a timer, in seconds. -/
  | quantile (timer : Handle) (q : Binary64)
deriving DecidableEq, Repr

/-- What a meter measures with. -/
inductive Instrument where
  | counter (count : UInt64)
  | gauge (source : Source)
  | timer (timings : Timings)
  | longTaskTimer (tasks : LongTasks)
deriving DecidableEq

/-- The kind of an instrument. -/
def Instrument.kind : Instrument → MeterKind
  | counter _ => .counter
  | gauge _ => .gauge
  | timer _ => .timer
  | longTaskTimer _ => .longTaskTimer

/-- A meter. -/
structure Meter where
  id : MeterId
  instrument : Instrument
deriving DecidableEq

namespace Meter

/-- The kind of a meter (`Meter::kind`). -/
def kind (meter : Meter) : MeterKind := meter.instrument.kind

/-- Counts on (`Counter::increment_by`); a meter that is no counter stays as it is. -/
def increment (amount : UInt64) (meter : Meter) : Meter :=
  match meter.instrument with
  | .counter count => { meter with instrument := .counter (count + amount) }
  | _ => meter

/-- Records an operation; a meter that is no timer stays as it is. -/
def record (duration : Duration) (meter : Meter) : Meter :=
  match meter.instrument with
  | .timer timings => { meter with instrument := .timer (timings.record duration) }
  | _ => meter

/-- Records so many operations of one length; a meter that is no timer stays as it is. -/
def recordTimes (duration : Duration) (times : Nat) (meter : Meter) : Meter :=
  match meter.instrument with
  | .timer timings => { meter with instrument := .timer (timings.recordTimes duration times) }
  | _ => meter

/-- The running tasks of a long-task timer. -/
def tasks? (meter : Meter) : Option LongTasks :=
  match meter.instrument with
  | .longTaskTimer tasks => some tasks
  | _ => none

/-- The state of a timer. -/
def timings? (meter : Meter) : Option Timings :=
  match meter.instrument with
  | .timer timings => some timings
  | _ => none

/-- Changes the running tasks of a long-task timer. -/
def mapTasks (change : LongTasks → LongTasks) (meter : Meter) : Meter :=
  match meter.instrument with
  | .longTaskTimer tasks => { meter with instrument := .longTaskTimer (change tasks) }
  | _ => meter

end Meter
end Telemetry
