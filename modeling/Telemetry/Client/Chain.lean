import Telemetry.Client.Basic
import Telemetry.Timed.Basic
import Telemetry.Web.RequestTags
/-!
Sending requests through a chain of interceptors to a transport. Each interceptor answers a request
itself, or passes one on and sees what comes of it, so the transport is reached at most once and
last. The metrics interceptor times what passes through it and changes nothing.
-/
namespace Telemetry.Client

/-- What requests are sent in: a registry, and whatever else interceptors and transports use. -/
structure Surroundings (ω : Type) where
  registry : Registry
  world : ω

/-- What an interceptor does with a request. -/
inductive Decision (ω : Type) where
  | answer (outcome : Outcome)
  /-- It passes a request on; `after` gets what comes of it. -/
  | proceed (request : Request) (after : Outcome → Surroundings ω → Outcome × Surroundings ω)

/-- Something that requests pass through (`ClientInterceptor`). -/
abbrev Interceptor (ω : Type) := Request → Surroundings ω → Decision ω × Surroundings ω

/-- Something that takes requests to their servers. -/
abbrev Transport (ω : Type) := Request → Surroundings ω → Outcome × Surroundings ω

/-- Sends a request through some interceptors and the transport (`Execution::execute`). -/
def execute {ω : Type} (transport : Transport ω) :
    List (Interceptor ω) → Request → Surroundings ω → Outcome × Surroundings ω
  | [], request, surroundings => transport request surroundings
  | interceptor :: rest, request, surroundings =>
    match interceptor request surroundings with
    | (.answer outcome, surroundings) => (outcome, surroundings)
    | (.proceed request after, surroundings) =>
      let (outcome, surroundings) := execute transport rest request surroundings
      after outcome surroundings

/-- The status of an answer. -/
def Outcome.status? (outcome : Outcome) : Option Nat :=
  match outcome with
  | .ok response => some response.status
  | .error _ => none

/-- How requests are timed (`MetricsClientInterceptor`): the name of the timer, and its tags. -/
structure Metrics where
  name : String
  tags : RequestTags := .default

/-- Times what comes after it, under the method and template of the request that it got
(`MetricsClientInterceptor::intercept`). -/
def Metrics.interceptor {ω : Type} (metrics : Metrics) : Interceptor ω :=
  fun request surroundings =>
    let start := surroundings.registry.clock.nanos
    let after (outcome : Outcome) (surroundings : Surroundings ω) : Outcome × Surroundings ω :=
      let registry := surroundings.registry
      let tags := metrics.tags.client request.method request.template outcome.status?
      let registry := registry.recordNamed metrics.name tags [] (registry.clock.since start)
      (outcome, { surroundings with registry })
    (.proceed request after, surroundings)

end Telemetry.Client
