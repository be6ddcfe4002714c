import Telemetry.Timed.Basic
/-!
Timing a piece of work. Long-task descriptors count it while it runs; when it ends every other
named descriptor gets one observation of its time. Work that is given up ends its long tasks and
records nothing.
-/
namespace Telemetry

/-- Work in progress: its long tasks and the clock reading at its start. -/
structure TaskInProgress where
  samples : List Sample
  start : UInt64

namespace TaskInProgress

/-- Starts the long tasks. -/
def begin (registry : Registry) (timings : List Timed) : TaskInProgress × Registry :=
  let (samples, registry) := registry.startAll none (Timed.longTasks timings)
  (⟨samples, registry.clock.nanos⟩, registry)

/-- Ends the long tasks and records the time. -/
def complete (task : TaskInProgress) (timings : List Timed) (registry : Registry) : Registry :=
  let elapsed := registry.clock.since task.start
  (registry.stopAll task.samples).recordAll none .empty elapsed (Timed.shortTasks timings)

/-- Ends the long tasks only. -/
def cancel (task : TaskInProgress) (registry : Registry) : Registry :=
  registry.stopAll task.samples

end TaskInProgress

/-- Does some work, timing it by every named descriptor (`timed_task`). -/
def timedTask {α : Type} (timings : List Timed) (work : Registry → α × Registry)
    (registry : Registry) : α × Registry :=
  let (task, registry) := TaskInProgress.begin registry timings
  let (output, registry) := work registry
  (output, task.complete timings registry)

end Telemetry
