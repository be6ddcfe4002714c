import Telemetry.Route.Patterns
import Telemetry.Web.FaultNames
import Telemetry.Web.RequestTags
/-!
Timing requests on the server. A request whose route is timed starts the route's long tasks before
it is handled; when it ends they are ended, and each other descriptor gets one observation. Handling
goes on undisturbed: what the handler gives is given on, and a meter that cannot be registered is
passed over. The warning about it goes to the log, which is left out.
-/
namespace Telemetry.Server

/-- How requests are timed (`TimedRequestsLayer`). -/
structure Timing where
  routes : Route.Table
  /-- The name of timers whose descriptors are for server requests. -/
  requestsName : String := "http_server_requests"
  tags : RequestTags := .default
  faultNames : FaultNames := []

/-- A request: its method and how its route is known. -/
structure Request where
  method : String
  target : Route.Target

/-- A timed request that is being handled (`RequestTimingContext`). -/
structure InFlight where
  method : String
  template : String
  timings : List Timed
  start : UInt64
  samples : List Sample

/-- How handling ends: with an answer, or with a fault. -/
inductive Outcome (ρ : Type) where
  | answered (status : Nat) (content : ρ)
  | failed (raised : Raised)

/-- The status that a request is recorded under. -/
def Outcome.status {ρ : Type} : Outcome ρ → String
  | answered status _ => toString status
  | failed _ => "500"

namespace Timing

/-- Starts timing a request, if its route is timed (`RequestTimingContext::begin`). -/
def begin (timing : Timing) (request : Request) (registry : Registry) :
    Option (InFlight × Registry) :=
  match timing.routes.lookup request.method request.target with
  | none => none
  | some entry =>
    let start := registry.clock.nanos
    let (samples, registry) :=
      registry.startAll (some timing.requestsName) (Timed.longTasks entry.timings)
    some (⟨request.method, entry.template.pattern, entry.timings, start, samples⟩, registry)

/-- The exception a request is recorded under (`ExceptionTagger::take`): the name of its fault, or
else the name that was stored while it was handled. -/
def exceptionOf {ρ : Type} (timing : Timing) (stored : Option String) : Outcome ρ → String
  | .answered _ _ => stored.getD RequestTags.none
  | .failed raised => timing.faultNames.nameOf raised

/-- Ends the long tasks of a request and records its time (`RequestTimingContext::complete`). -/
def complete {ρ : Type} (timing : Timing) (flight : InFlight) (outcome : Outcome ρ)
    (stored : Option String) (registry : Registry) : Registry :=
  let registry := registry.stopAll flight.samples
  let tags := timing.tags.server flight.method flight.template outcome.status
    (timing.exceptionOf stored outcome)
  registry.recordAll (some timing.requestsName) tags (registry.clock.since flight.start)
    (Timed.shortTasks flight.timings)

/-- Ends the long tasks of a request that was given up. -/
def cancel (flight : InFlight) (registry : Registry) : Registry := registry.stopAll flight.samples

/-- Handles a request and times it (`TimedRequests::call`). The handler is told whether the request
is timed, and gives besides its outcome the exception name that was stored last. -/
def call {ρ : Type} (timing : Timing) (request : Request)
    (handle : Bool → Registry → Outcome ρ × Option String × Registry) (registry : Registry) :
    Outcome ρ × Registry :=
  match timing.begin request registry with
  | none =>
    let (outcome, _, registry) := handle false registry
    (outcome, registry)
  | some (flight, registry) =>
    let (outcome, stored, registry) := handle true registry
    (outcome, timing.complete flight outcome stored registry)

end Timing
end Telemetry.Server
