import Telemetry.Error
import Telemetry.Meter.Basic
import Telemetry.Reading
import Telemetry.Text.Blank
/-!
The registry holds one meter for each id. A meter is registered at its first use; asking for the
same id again gives the same meter, and asking for it as another kind is an error that changes
nothing. Meters are reached through handles, which go on recording after the registry was cleared.
-/
namespace Telemetry

/-- A registry of meters (`MeterRegistry`). -/
structure Registry where
  clock : Clock
  /-- Put under the tags of every meter that is registered from now on. -/
  commonTags : Tags
  /-- The meters that can be found, by id. -/
  index : OrderedMap MeterId Handle
  /-- Every meter that was ever registered, in the order of registration. -/
  instances : List Meter
  /-- What the probes of gauges show. -/
  probes : Probe → Binary64

namespace Registry

/-- A registry without meters, where every probe shows zero. -/
def new (clock : Clock) (commonTags : Tags) : Registry :=
  ⟨clock, Tags.merge .empty commonTags, .empty, [], fun _ => .zero⟩

/-- The meter behind a handle. -/
def meter? (registry : Registry) (handle : Handle) : Option Meter :=
  registry.instances[handle.index]?

/-- Changes the meter behind a handle. -/
def modify (registry : Registry) (handle : Handle) (change : Meter → Meter) : Registry :=
  { registry with instances := registry.instances.modify handle.index change }

/-- The id under which a name and tags are registered: explicit tags win over common ones. -/
def effectiveId (registry : Registry) (name : String) (tags : Tags) : MeterId :=
  ⟨name, registry.commonTags.merge tags⟩

/-- The meter that is found under an id. -/
def find? (registry : Registry) (id : MeterId) : Option (Handle × Meter) := do
  let handle ← registry.index.get? id
  let meter ← registry.meter? handle
  return (handle, meter)

/-- Puts a new meter under an id. -/
def add (registry : Registry) (id : MeterId) (instrument : Instrument) : Handle × Registry :=
  let handle : Handle := ⟨registry.instances.length⟩
  (handle, { registry with
    index := registry.index.insert id handle
    instances := registry.instances ++ [⟨id, instrument⟩] })

/-- The meter of a name and tags, registered with `fresh` as its instrument if there is none
(`MeterRegistry::get_or_register`). -/
def register (registry : Registry) (name : String) (tags : Tags) (fresh : Instrument) :
    Except Error (Handle × Registry) :=
  if Text.isBlankText name then .error (.invalidName name)
  else
    let id := registry.effectiveId name tags
    match registry.find? id with
    | none => .ok (registry.add id fresh)
    | some (handle, meter) =>
      if meter.kind = fresh.kind then .ok (handle, registry)
      else .error (.kindConflict meter.id.name meter.kind fresh.kind)

/-- The counter of a name and tags (`MeterRegistry::counter`). -/
def counter (registry : Registry) (name : String) (tags : Tags) :
    Except Error (Handle × Registry) :=
  registry.register name tags (.counter 0)

/-- The gauge of a name and tags (`MeterRegistry::gauge`); a gauge that is there keeps its
source. -/
def gauge (registry : Registry) (name : String) (tags : Tags) (source : Source) :
    Except Error (Handle × Registry) :=
  registry.register name tags (.gauge source)

/-- The long-task timer of a name and tags (`MeterRegistry::long_task_timer`). -/
def longTaskTimer (registry : Registry) (name : String) (tags : Tags) :
    Except Error (Handle × Registry) :=
  registry.register name tags (.longTaskTimer .empty)

/-- The quantiles a timer keeps. -/
def quantilesOf (registry : Registry) (timer : Handle) : List Binary64 :=
  match (registry.meter? timer).bind Meter.timings? with
  | some timings => timings.quantiles
  | none => []

/-- The name of the gauges that show a timer's quantiles. -/
def quantileGaugeName (name : String) : String := name ++ ".quantiles"

/-- The tags of the gauge that shows one quantile. -/
def quantileGaugeTags (tags : Tags) (q : Binary64) : Tags :=
  tags.insert "quantile" (Decimal.plain.write q)

/-- Registers the gauge that shows one quantile of a timer, if its id is free. -/
def publishQuantile (timer : Handle) (name : String) (tags : Tags) (registry : Registry)
    (q : Binary64) : Registry :=
  match registry.gauge (quantileGaugeName name) (quantileGaugeTags tags q) (.quantile timer q) with
  | .ok (_, registry) => registry
  | .error _ => registry

/-- The timer of a name and tags (`MeterRegistry::timer_with_quantiles`). Quantiles take effect when
it is registered; each of those it keeps is published as a gauge beside it. -/
def timer (registry : Registry) (name : String) (tags : Tags) (quantiles : List Binary64) :
    Except Error (Handle × Registry) :=
  match registry.register name tags (.timer (.new quantiles)) with
  | .error error => .error error
  | .ok (handle, registry) =>
    .ok (handle, (registry.quantilesOf handle).foldl (publishQuantile handle name tags) registry)

/-- Puts more tags over the common ones, for meters that are registered from now on
(`MeterRegistry::add_common_tags`). -/
def addCommonTags (registry : Registry) (tags : Tags) : Registry :=
  { registry with commonTags := registry.commonTags.merge tags }

/-- Lets every id go (`MeterRegistry::clear`). -/
def clear (registry : Registry) : Registry := { registry with index := .empty }

/-- Moves the clock on. -/
def advance (registry : Registry) (amount : Duration) : Registry :=
  { registry with clock := registry.clock.advance amount }

/-- Lets a probe show another number. -/
def setProbe (registry : Registry) (probe : Probe) (value : Binary64) : Registry :=
  { registry with probes := fun other => if other = probe then value else registry.probes other }

/-- Counts on. -/
def increment (registry : Registry) (counter : Handle) (amount : UInt64) : Registry :=
  registry.modify counter (Meter.increment amount)

/-- Records an operation. -/
def record (registry : Registry) (timer : Handle) (duration : Duration) : Registry :=
  registry.modify timer (Meter.record duration)

/-- Records so many operations of one length. -/
def recordTimes (registry : Registry) (timer : Handle) (duration : Duration) (times : Nat) :
    Registry :=
  registry.modify timer (Meter.recordTimes duration times)

/-- Starts a task on a long-task timer. -/
def startTask (registry : Registry) (timer : Handle) : Option (Sample × Registry) :=
  match (registry.meter? timer).bind Meter.tasks? with
  | none => none
  | some tasks =>
    some (⟨timer, tasks.next⟩, registry.modify timer (Meter.mapTasks (·.start registry.clock.nanos)))

/-- How long a task has been running; nothing if it was ended. -/
def elapsed (registry : Registry) (sample : Sample) : Duration :=
  match ((registry.meter? sample.timer).bind Meter.tasks?).bind (·.startOf? sample.task) with
  | some start => registry.clock.since start
  | none => .zero

/-- Ends a task (`LongTaskSample::stop`). -/
def stopTask (registry : Registry) (sample : Sample) : Registry :=
  registry.modify sample.timer (Meter.mapTasks (·.stop sample.task))

/-- What a gauge's source shows now (`Gauge::value`). -/
def sourceValue (registry : Registry) : Source → Binary64
  | .constant value => value
  | .probe probe => registry.probes probe
  | .quantile timer q =>
    match (registry.meter? timer).bind Meter.timings? with
    | some timings => timings.quantileSeconds q
    | none => .zero

/-- What a meter shows now (`MeterSnapshot::of`). -/
def valueOf (registry : Registry) (meter : Meter) : Value :=
  match meter.instrument with
  | .counter count => .counter count.toNat
  | .gauge source => .gauge (registry.sourceValue source)
  | .timer timings => .timer timings.count.toNat timings.total timings.max timings.quantileValues
  | .longTaskTimer tasks => .longTaskTimer tasks.active (tasks.duration registry.clock)

/-- The meters that can be found, in ascending order of their ids (`MeterRegistry::meters`). -/
def meters (registry : Registry) : List (Handle × Meter) :=
  registry.index.values.filterMap fun handle => (registry.meter? handle).map (handle, ·)

/-- What all meters show now, in ascending order of their ids (`MeterRegistry::snapshot`). -/
def snapshot (registry : Registry) : Snapshot :=
  registry.meters.map fun (_, meter) => ⟨meter.id, registry.valueOf meter⟩

/-- The number of meters that can be found (`MeterRegistry::len`). -/
def size (registry : Registry) : Nat := registry.index.size

end Registry
end Telemetry
