import Telemetry.Clock
/-!
What a long-task timer holds: the tasks that are running, each with the clock reading at its start.
Tasks are numbered, so that each is ended once and by its own number.
-/
namespace Telemetry

/-- The running tasks of a long-task timer (`LongTaskTimer`). -/
structure LongTasks where
  /-- The number of the next task to be started. -/
  next : Nat
  /-- The running tasks: their numbers and the readings at their starts. -/
  running : List (Nat × UInt64)
deriving DecidableEq

namespace LongTasks

/-- No task has been started. -/
def empty : LongTasks := ⟨0, []⟩

/-- Starts a task under the next number (`LongTaskTimer::start`). -/
def start (tasks : LongTasks) (now : UInt64) : LongTasks :=
  ⟨tasks.next + 1, tasks.running ++ [(tasks.next, now)]⟩

/-- The reading at which a running task was started. -/
def startOf? (tasks : LongTasks) (task : Nat) : Option UInt64 := tasks.running.lookup task

/-- Ends a task (`LongTaskTimer::stop`); one that is not running is left alone. -/
def stop (tasks : LongTasks) (task : Nat) : LongTasks :=
  { tasks with running := tasks.running.filter (·.1 ≠ task) }

/-- How many tasks are running (`LongTaskTimer::active_tasks`). -/
def active (tasks : LongTasks) : Nat := tasks.running.length

/-- How long the running tasks have been running together (`LongTaskTimer::duration`). -/
def duration (tasks : LongTasks) (clock : Clock) : Duration :=
  .sum (tasks.running.map fun entry => clock.since entry.2)

end LongTasks
end Telemetry
