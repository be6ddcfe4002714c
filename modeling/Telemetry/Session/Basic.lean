import Telemetry.Export.Exposition
import Telemetry.Export.Series
import Telemetry.Registry.Description
import Telemetry.Registry.Search
import Telemetry.Timed.Task
/-!
Sessions: a registry together with names for the handles and running tasks that were kept. A step
does one thing to the registry, or looks at it, and has one answer; a failed step leaves the
registry as it was and later steps go on.
-/
namespace Telemetry

/-- A registry in use. -/
structure Session where
  registry : Registry
  handles : OrderedMap String Handle := .empty
  samples : OrderedMap String Sample := .empty

namespace Session

/-- So many lengths that go up in equal steps, each with how many operations have it. -/
def lengths (first step : Int) (number : Nat) : List (Duration × Nat) :=
  if step = 0 then [(⟨first.toNat⟩, number)]
  else (List.range number).map fun (i : Nat) => (⟨(first + i * step).toNat⟩, 1)

/-- What is done with a meter once it is at hand; what does not fit its kind is left out. -/
structure Use where
  amounts : List UInt64 := []
  /-- Lengths of operations, each with how many of them there were. -/
  durations : List (Duration × Nat) := []
  /-- The names of the tasks to be started. -/
  tasks : List String := []

/-- A step. -/
inductive Step where
  | counter (name : String) (tags : Tags) (use : Use) (keep : Option String)
  | timer (name : String) (tags : Tags) (quantiles : List Binary64) (use : Use)
    (keep : Option String)
  /-- A gauge on a cell, whose value is stored first. -/
  | gauge (name : String) (tags : Tags) (cell : String) (value : Option Binary64)
    (keep : Option String)
  | longTaskTimer (name : String) (tags : Tags) (use : Use) (keep : Option String)
  | set (cell : String) (value : Binary64)
  | use (handle : String) (use : Use)
  /-- Are two handles of one meter? -/
  | same (left right : String)
  | stop (sample : String)
  | drop (sample : String)
  | advance (amount : Duration)
  | clock
  | addCommonTags (tags : Tags)
  | find (name : String) (filter : List (String × String)) (tags : Tags)
  | meters
  | snapshot
  | measurements
  | size
  | clear
  | describe
  | describeMeter (handle : String)
  | exposition (descriptions : Bool)
  | plaintext
  | series (hostTag : String)
  /-- Work that advances the clock and takes a snapshot. -/
  | task (timings : List Timed) (amount : Duration)

/-- A meter and what it shows. -/
structure State where
  meter : Meter
  value : Value

/-- What a search finds: all meters, and the first of each kind. -/
structure Found where
  meters : List State
  first : MeterKind → Option State

/-- The answer to a step. -/
inductive Answer where
  | failed (error : Error)
  | noHandle
  | noSample
  | nothing
  | state (state : State)
  | same (same : Bool)
  | stopped (elapsed : Duration) (timer : State)
  | clock (clock : Clock)
  | tags (tags : Tags)
  | found (found : Found)
  | meters (meters : List (MeterKind × MeterId))
  | snapshot (snapshot : Snapshot)
  | measurements (measurements : List (MeterId × List Measurement))
  | size (size : Nat)
  | cleared
  | text (text : String)
  | task (during after : Snapshot)

/-- A meter with what it shows in a registry. -/
def stateIn (registry : Registry) (meter : Meter) : State := ⟨meter, registry.valueOf meter⟩

/-- The state behind a handle. -/
def stateOf (session : Session) (handle : Handle) : Answer :=
  match session.registry.meter? handle with
  | none => .noHandle
  | some meter => .state (stateIn session.registry meter)

/-- Starts a task under a name. A task that had the name is ended after that. -/
def startTask (timer : Handle) (session : Session) (name : String) : Session :=
  match session.registry.startTask timer with
  | none => session
  | some (sample, registry) =>
    let registry := match session.samples.get? name with
      | none => registry
      | some earlier => registry.stopTask earlier
    { session with registry, samples := session.samples.insert name sample }

/-- Counts, records and starts tasks, as far as the meter can. -/
def applyUse (session : Session) (handle : Handle) (use : Use) : Session :=
  let registry := use.amounts.foldl (·.increment handle ·) session.registry
  let registry := use.durations.foldl
    (fun registry (duration, times) => registry.recordTimes handle duration times) registry
  use.tasks.foldl (startTask handle) { session with registry }

/-- Keeps a handle under a name, if there is one. -/
def keepHandle (session : Session) (keep : Option String) (handle : Handle) : Session :=
  match keep with
  | none => session
  | some name => { session with handles := session.handles.insert name handle }

/-- Goes on with a meter that was asked for. -/
def withMeter (session : Session) (registered : Except Error (Handle × Registry)) (use : Use)
    (keep : Option String) : Session × Answer :=
  match registered with
  | .error error => (session, .failed error)
  | .ok (handle, registry) =>
    let session := ({ session with registry }.keepHandle keep handle).applyUse handle use
    (session, session.stateOf handle)

/-- Ends a task and forgets its name. -/
def endTask (session : Session) (name : String) (sample : Sample) : Session :=
  { session with
    registry := session.registry.stopTask sample
    samples := session.samples.erase name }

/-- What a search finds. -/
def search (registry : Registry) (search : Search) : Found where
  meters := (search.meters registry).map fun (_, meter) => stateIn registry meter
  first kind := (search.first? registry kind).map fun (_, meter) => stateIn registry meter

/-- Takes a step. -/
def step (session : Session) : Step → Session × Answer
  | .counter name tags use keep => session.withMeter (session.registry.counter name tags) use keep
  | .timer name tags quantiles use keep =>
    session.withMeter (session.registry.timer name tags quantiles) use keep
  | .gauge name tags cell value keep =>
    let registry := match value with
      | none => session.registry
      | some value => session.registry.setProbe (.cell cell) value
    { session with registry }.withMeter (registry.gauge name tags (.probe (.cell cell))) {} keep
  | .longTaskTimer name tags use keep =>
    session.withMeter (session.registry.longTaskTimer name tags) use keep
  | .set cell value =>
    ({ session with registry := session.registry.setProbe (.cell cell) value }, .nothing)
  | .use name use =>
    match session.handles.get? name with
    | none => (session, .noHandle)
    | some handle =>
      let session := session.applyUse handle use
      (session, session.stateOf handle)
  | .same left right =>
    match session.handles.get? left, session.handles.get? right with
    | some left, some right => (session, .same (left = right))
    | _, _ => (session, .noHandle)
  | .stop name =>
    match session.samples.get? name with
    | none => (session, .noSample)
    | some sample =>
      let elapsed := session.registry.elapsed sample
      let session := session.endTask name sample
      match session.registry.meter? sample.timer with
      | none => (session, .noSample)
      | some meter => (session, .stopped elapsed (stateIn session.registry meter))
  | .drop name =>
    match session.samples.get? name with
    | none => (session, .noSample)
    | some sample =>
      let session := session.endTask name sample
      (session, session.stateOf sample.timer)
  | .advance amount =>
    let registry := session.registry.advance amount
    ({ session with registry }, .clock registry.clock)
  | .clock => (session, .clock session.registry.clock)
  | .addCommonTags tags =>
    let registry := session.registry.addCommonTags tags
    ({ session with registry }, .tags registry.commonTags)
  | .find name filter tags =>
    let asked := filter.foldl (fun search (key, value) => search.tag key value) (Search.named name)
    (session, .found (search session.registry (asked.allTags tags)))
  | .meters =>
    (session, .meters (session.registry.meters.map fun (_, meter) => (meter.kind, meter.id)))
  | .snapshot => (session, .snapshot session.registry.snapshot)
  | .measurements =>
    (session, .measurements (session.registry.snapshot.map fun reading =>
      (reading.id, reading.measurements)))
  | .size => (session, .size session.registry.size)
  | .clear => ({ session with registry := session.registry.clear }, .cleared)
  | .describe => (session, .text session.registry.description)
  | .describeMeter name =>
    match ((session.handles.get? name).bind session.registry.meter?).bind Meter.description? with
    | none => (session, .noHandle)
    | some text => (session, .text text)
  | .exposition descriptions =>
    (session, .text (Exposition.render session.registry.snapshot descriptions))
  | .plaintext =>
    (session, .text (Plaintext.render session.registry.snapshot
      session.registry.clock.wallMillis.toInt))
  | .series hostTag =>
    (session, .text (Series.payload (Series.ofSnapshot session.registry.snapshot hostTag
      session.registry.clock.wallMillis.toInt)))
  | .task timings amount =>
    let work (registry : Registry) : Snapshot × Registry :=
      let registry := registry.advance amount
      (registry.snapshot, registry)
    let (during, registry) := timedTask timings work session.registry
    ({ session with registry }, .task during registry.snapshot)

/-- Takes some steps, one after the other. -/
def run (session : Session) : List Step → Session × List Answer
  | [] => (session, [])
  | step :: steps =>
    let (session, answer) := session.step step
    let (session, answers) := session.run steps
    (session, answer :: answers)

end Session
end Telemetry
