import Telemetry.Registry.Basic
/-!
Timing descriptors: they say that something is timed, under which name, with which tags, and
whether its completed runs are timed or its running ones are counted.
-/
namespace Telemetry

/-- How a descriptor names its timer. -/
inductive TimerName where
  | declared (name : String)
  /-- The name that server requests have where the descriptor is used. -/
  | serverRequests
  /-- No name: nothing is timed. -/
  | missing
deriving DecidableEq, Repr

/-- A timing descriptor. -/
structure Timed where
  name : TimerName
  extraTags : Tags := .empty
  /-- Whether runs are counted while they last, and not timed when they end. -/
  longTask : Bool := false
  quantiles : List Binary64 := []
deriving DecidableEq

namespace Timed

/-- A descriptor with a name (`Timed::named`); a blank name is none. -/
def named (name : String) : Timed :=
  { name := if Text.isBlankText name then .missing else .declared name }

/-- A descriptor that takes the name of server requests (`Timed::server_requests`). -/
def serverRequests : Timed := { name := .serverRequests }

/-- A descriptor that times nothing (`Timed::unnamed`). -/
def unnamed : Timed := { name := .missing }

/-- Whether anything is timed (`Timed::is_named`). -/
def isNamed (timed : Timed) : Bool := timed.name ≠ .missing

/-- The name of the timer, where server requests have the given name or none
(`Timed::resolve_name`). -/
def resolve? (timed : Timed) (serverRequests : Option String) : Option String :=
  match timed.name with
  | .declared name => some name
  | .serverRequests => serverRequests
  | .missing => none

/-- The descriptors that count running tasks (`Timed::is_long_task`). -/
def longTasks (timings : List Timed) : List Timed := timings.filter (·.longTask)

/-- The descriptors that time completed runs. -/
def shortTasks (timings : List Timed) : List Timed := timings.filter (!·.longTask)

end Timed

namespace Registry

/-- Starts a task on the long-task timer of a name and tags, if there can be one. -/
def startNamed (registry : Registry) (name : String) (tags : Tags) : Option (Sample × Registry) :=
  match registry.longTaskTimer name tags with
  | .ok (timer, registry) => registry.startTask timer
  | .error _ => none

/-- Records an operation in the timer of a name and tags, if there can be one. -/
def recordNamed (registry : Registry) (name : String) (tags : Tags) (quantiles : List Binary64)
    (duration : Duration) : Registry :=
  match registry.timer name tags quantiles with
  | .ok (timer, registry) => registry.record timer duration
  | .error _ => registry

/-- Starts a task for every descriptor that has a name; one that cannot be registered is passed
over. -/
def startAll (registry : Registry) (serverRequests : Option String) :
    List Timed → List Sample × Registry
  | [] => ([], registry)
  | timed :: rest =>
    match (timed.resolve? serverRequests).bind (registry.startNamed · timed.extraTags) with
    | none => registry.startAll serverRequests rest
    | some (sample, registry) =>
      let (samples, registry) := registry.startAll serverRequests rest
      (sample :: samples, registry)

/-- Ends some tasks. -/
def stopAll (registry : Registry) (samples : List Sample) : Registry :=
  samples.foldl stopTask registry

/-- Records an operation for every descriptor that has a name, over the given tags; one that cannot
be registered is passed over. -/
def recordAll (registry : Registry) (serverRequests : Option String) (tags : Tags)
    (duration : Duration) (timings : List Timed) : Registry :=
  timings.foldl (fun registry timed =>
    match timed.resolve? serverRequests with
    | none => registry
    | some name =>
      registry.recordNamed name (tags.merge timed.extraTags) timed.quantiles duration) registry

end Registry
end Telemetry
