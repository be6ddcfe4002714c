import Telemetry.Proofs.Client.Conduct
import Telemetry.Proofs.Registry.Observation

/-! Timing an exchange. The metrics interceptor stands in front of all others and does nothing before
them, so they see what they would see without it; behind them it records the time that they took, and
gives on what they gave. -/
namespace Telemetry.Client
open Registry (Operation WellIndexed RecordsOnce)
variable {ω : Type}

/-- The usual tags of an exchange: method and template as the request was given, and the status of the
answer, if there is one. -/
def TellsOf (tags : Tags) (request : Request) (outcome : Outcome) : Prop :=
  ∀ key, tags.get? key =
    if key = "method" then some request.method
    else if key = "uri" then some (request.template.getD "none")
    else if key = "status" then
      match outcome with
      | .ok response => some (toString response.status)
      | .error _ => some "CLIENT_ERROR"
    else none

private theorem default_tellsOf (request : Request) (outcome : Outcome) :
    TellsOf (RequestTags.default.client request.method request.template outcome.status?) request
      outcome := by
  intro key
  have status : (outcome.status?.map toString).getD RequestTags.clientError =
      match outcome with
      | .ok response => toString response.status
      | .error _ => "CLIENT_ERROR" := by
    cases outcome <;> rfl
  simp only [RequestTags.default, Tags.ofList, Tags.insertAll, List.foldl_cons, List.foldl_nil,
    OrderedMap.get?_insert, Std.LawfulEqCmp.compare_eq_iff_eq, OrderedMap.get?_empty, status]
  by_cases isMethod : key = "method"
  · subst isMethod
    simp
  by_cases isUri : key = "uri"
  · subst isUri
    simp [RequestTags.none]
  · cases outcome <;> simp [isMethod, isUri]

/-- A factory's client has the metrics interceptor in front of the interceptors that it was given. -/
private theorem links_build (factory : Factory) (transport : Transport ω)
    (interceptors : List (Interceptor ω)) (baseUrl : Option Url) :
    (RestClient.build (some factory) transport interceptors baseUrl).links =
      .metrics factory :: interceptors.map .custom := by
  have absent : (interceptors.map Link.custom).any (Link.isOf factory) = false := by
    simp [Link.isOf]
  simp [RestClient.build, Factory.instrument, absent]

private theorem exchange_bare (transport : Transport ω) (interceptors : List (Interceptor ω))
    (baseUrl : Option Url) (request : Request) (surroundings : Surroundings ω) :
    (RestClient.build none transport interceptors baseUrl).exchange request surroundings =
      execute transport interceptors request surroundings := by
  simp [RestClient.build, RestClient.exchange, Link.interceptor, Function.comp_def]

/-- The registry once the metrics interceptor recorded what came of a request. -/
def Metrics.recorded (metrics : Metrics) (request : Request) (start : UInt64) (outcome : Outcome)
    (registry : Registry) : Registry :=
  registry.recordNamed metrics.name
    (metrics.tags.client request.method request.template outcome.status?) []
    (registry.clock.since start)

private theorem exchange_timed (factory : Factory) (transport : Transport ω)
    (interceptors : List (Interceptor ω)) (baseUrl : Option Url) (request : Request)
    (surroundings : Surroundings ω) {outcome : Outcome} {left : Surroundings ω}
    (without : execute transport interceptors request surroundings = (outcome, left)) :
    (RestClient.build (some factory) transport interceptors baseUrl).exchange request surroundings =
      (outcome, ⟨factory.metrics.recorded request surroundings.registry.clock.nanos outcome
        left.registry, left.world⟩) := by
  have transportOf : (RestClient.build (some factory) transport interceptors baseUrl).transport =
      transport := by
    simp only [RestClient.build, Factory.instrument]
    split <;> rfl
  rw [RestClient.exchange, links_build, transportOf, List.map_cons, List.map_map]
  have others : interceptors.map (Link.interceptor ∘ Link.custom) = interceptors := List.map_id _
  rw [others, execute, Link.interceptor, Metrics.interceptor]
  simp only [without]
  rfl

/-- **Timing an exchange gets in nobody's way.** Whatever interceptors and transport do, a client of a
factory gives what they give without the factory, in the surroundings that they leave; only that the
time between beginning and end is recorded, once, in the timer of the method and template that the
request had at the beginning, unless that timer is refused. The request goes to the interceptors in
their order and to the transport last. -/
theorem exchange_timing_is_transparent (clock : Clock) (commonTags : Tags)
    (history : List Operation) (factory : Factory) (dispatch : Dispatch ω)
    (conducts : List (Conduct ω)) (baseUrl : Option Url) (request : Request) (world : ω) :
    let registry := (Registry.new clock commonTags).run history
    let interceptors := conducts.map Conduct.interceptor
    let bare := RestClient.build none dispatch.transport interceptors baseUrl
    let client := RestClient.build (some factory) dispatch.transport interceptors baseUrl
    let watched := RestClient.build (some factory) dispatch.transport.watched
      (watchedFrom 0 interceptors) baseUrl
    ∃ outcome left after,
      bare.exchange request ⟨registry, world⟩ = (outcome, left) ∧
      client.exchange request ⟨registry, world⟩ = (outcome, ⟨after, left.world⟩) ∧
      (let name := factory.metrics.name
       let tags := factory.metrics.tags.client request.method request.template outcome.status?
       (factory.metrics.tags = .default → TellsOf tags request outcome) ∧
       (∀ error, left.registry.timer name tags [] = .error error → after = left.registry) ∧
       ∀ timer granted, left.registry.timer name tags [] = .ok (timer, granted) →
         RecordsOnce left.registry after name tags []
           (left.registry.clock.since registry.clock.nanos) timer) ∧
      ∃ stops, stops ≠ [] ∧ stops <+: wayFrom 0 conducts.length ∧
        watched.exchange request (Surroundings.watched ⟨registry, world⟩ []) =
          (outcome, Surroundings.watched ⟨after, left.world⟩ stops) := by
  intro registry interceptors bare client watched
  have indexed : WellIndexed registry := Registry.history_wellIndexed clock commonTags history
  obtain ⟨operations, ran⟩ := execute_runs dispatch conducts request ⟨registry, world⟩
  obtain ⟨stops, some, way, seen⟩ :=
    execute_watched dispatch.transport interceptors 0 request ⟨registry, world⟩ []
  rcases without : execute dispatch.transport interceptors request ⟨registry, world⟩ with
    ⟨outcome, left⟩
  rw [without] at seen ran
  have indexedLeft : WellIndexed left.registry := by
    rw [show left.registry = registry.run operations from ran]
    exact (Registry.run_keeps indexed operations).1
  refine ⟨outcome, left, _, (exchange_bare _ _ _ _ _).trans without,
    exchange_timed factory _ _ baseUrl _ _ without, ⟨fun usual => ?_, fun error refused => ?_,
      fun timer granted asked => ?_⟩, stops, some, ?_, ?_⟩
  · rw [usual]
    exact default_tellsOf request outcome
  · exact Registry.recordNamed_of_refused refused _
  · exact Registry.recordNamed_recordsOnce indexedLeft asked _
  · rw [← List.length_map (f := Conduct.interceptor)]
    exact way
  · exact exchange_timed factory _ _ baseUrl _ _ seen

/-- Passes every request on as a POST without a template, after five nanoseconds. -/
def detour : Conduct Unit := fun request _ =>
  .proceed ⟨[.advance ⟨5⟩], ()⟩ { request with method := "POST", template := none }
    fun outcome _ => (⟨[], ()⟩, outcome)

/-- Refuses everything, after seven nanoseconds. -/
def refusing : Dispatch Unit := fun _ _ => (⟨[.advance ⟨7⟩], ()⟩, .error (.transport "refused"))

/-- A detour that comes to nothing is timed as the GET that it was. -/
theorem detour_is_timed :
    let request : Request := ⟨"GET", { scheme := "http" }, some "/users/\x7b\x7d", []⟩
    let factory : Factory := ⟨0, { name := "http_client_requests" }⟩
    let refusal : Outcome := .error (.transport "refused")
    let tags := factory.metrics.tags.client request.method request.template refusal.status?
    let registry := (Registry.new ⟨0, 0⟩ .empty).run [.advance ⟨3⟩]
    ∃ after timer,
      (RestClient.build (some factory) refusing.transport [detour.interceptor] none).exchange request
        ⟨registry, ()⟩ = (refusal, ⟨after, ()⟩) ∧
      TellsOf tags request refusal ∧
      RecordsOnce (registry.run [.advance ⟨5⟩, .advance ⟨7⟩]) after "http_client_requests" tags []
        ⟨12⟩ timer := by
  intro request factory refusal tags registry
  let left := registry.run [.advance ⟨5⟩, .advance ⟨7⟩]
  obtain ⟨outcome, surroundings, after, bare, timed, ⟨tells, -, records⟩, -⟩ :=
    exchange_timing_is_transparent ⟨0, 0⟩ .empty [.advance ⟨3⟩] factory refusing [detour] none request ()
  have same : (refusal, (⟨left, ()⟩ : Surroundings Unit)) = (outcome, surroundings) := bare
  cases same
  have time : left.clock.since registry.clock.nanos = ⟨12⟩ := by decide +kernel
  have granted : (left.timer "http_client_requests" tags []).isOk = true := by decide +kernel
  cases asked : left.timer "http_client_requests" tags [] with
  | error error =>
    rw [asked] at granted
    cases granted
  | ok answer =>
    have recorded : RecordsOnce left after "http_client_requests" tags []
        (left.clock.since registry.clock.nanos) answer.1 := records answer.1 answer.2 asked
    rw [time] at recorded
    exact ⟨after, answer.1, timed, tells rfl, recorded⟩

end Telemetry.Client
