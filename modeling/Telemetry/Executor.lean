import Telemetry.Registry.Search
import Telemetry.Startup.Basic
/-!
Meters of an executor: its worker threads, the tasks that wait for one and the tasks that are not
finished are gauges; the tasks that were submitted are counted.
-/
namespace Telemetry

/-- The meters of an executor (`ExecutorMetrics`): the name they begin with, and their tags. -/
structure ExecutorMeters where
  name : String
  tags : Tags := .empty

namespace ExecutorMeters

/-- The gauges of an executor: the ends of their names, and what they show. -/
def gauges : List (String × Probe) :=
  [("_pool_size", .workers), ("_queue_size", .queued), ("_active_tasks", .active)]

/-- Registers the counter of submitted tasks (`ExecutorMetrics::tasks_counter`). -/
def tasksCounter (meters : ExecutorMeters) : Attempt Registry Handle :=
  .register (·.counter (meters.name ++ "_tasks") meters.tags)

/-- Registers some gauges. -/
def bindGauges (meters : ExecutorMeters) : List (String × Probe) → Attempt Registry Unit
  | [] => pure ()
  | (ending, probe) :: rest => do
    bindGauge (meters.name ++ ending) meters.tags (.probe probe)
    bindGauges meters rest

/-- Registers all meters (`ExecutorMetrics::bind_to`). -/
def bind (meters : ExecutorMeters) : Attempt Registry Unit := do
  meters.bindGauges gauges
  let _ ← meters.tasksCounter

/-- Registers all meters and gives the counter of submitted tasks (`ExecutorMetrics::monitor`). -/
def monitor (meters : ExecutorMeters) : Attempt Registry Handle := do
  meters.bind
  meters.tasksCounter

/-- The gauges of the executor as they are found by name and tags. -/
def read (meters : ExecutorMeters) (registry : Registry) : List (Option Binary64) :=
  gauges.map fun (ending, _) =>
    let search := (Search.named (meters.name ++ ending)).allTags meters.tags
    match search.first? registry .gauge with
    | some (_, ⟨_, .gauge source⟩) => some (registry.sourceValue source)
    | _ => none

/-- The submitted tasks as they are found by name and tags. -/
def submitted (meters : ExecutorMeters) (registry : Registry) : Option UInt64 :=
  let search := (Search.named (meters.name ++ "_tasks")).allTags meters.tags
  match search.first? registry .counter with
  | some (_, ⟨_, .counter count⟩) => some count
  | _ => none

end ExecutorMeters

/-- What was seen of an executor at work. -/
structure ExecutorReport where
  /-- The results of the tasks that were awaited one by one. -/
  awaited : List Nat
  whilePending : List (Option Binary64)

/-- Monitors an executor of one worker, lets it do some tasks one after the other, of which each
gives twice its number, and then holds some others back while the gauges are read
(`MonitoredExecutor::spawn`). -/
def ExecutorMeters.observe (meters : ExecutorMeters) (tasks pending : Nat) :
    Attempt Registry ExecutorReport := do
  Attempt.modify (·.setProbe .workers .one)
  let counter ← meters.monitor
  Attempt.modify (·.increment counter (.ofNat (tasks + pending)))
  let registry ← get
  return ⟨(List.range tasks).map (2 * ·),
    meters.read (registry.setProbe .active (.ofNat pending))⟩

end Telemetry
