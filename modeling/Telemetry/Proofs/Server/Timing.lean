import Telemetry.Proofs.Timed.Recording
import Telemetry.Server.Timing

/-! What timing does to the registry in which a request is handled. At the start it adds tasks, at the
end it takes them away again and adds observations; handling in between goes its own way. -/
namespace Telemetry.Server
open Registry (Operation WellIndexed Continues OfTimer)
variable {ρ : Type} {registry begun left : Registry} {timing : Timing} {request : Request}
  {entry : Route.Entry Pattern}

/-- What a handler does: it is told whether the request is timed, and sees the registry. -/
structure Behaviour (ρ : Type) where
  operations : Bool → Registry → List Operation
  /-- The exception name that is stored last. -/
  stored : Bool → Registry → Option String
  outcome : Bool → Registry → Outcome ρ

/-- A handler that behaves like that. -/
def Behaviour.handle (behaviour : Behaviour ρ) (timed : Bool) (registry : Registry) :
    Outcome ρ × Option String × Registry :=
  (behaviour.outcome timed registry, behaviour.stored timed registry,
    registry.run (behaviour.operations timed registry))

/-- The tags of a request that was handled, beside those of each descriptor. -/
def Timing.tagsOf (timing : Timing) (flight : InFlight) (outcome : Outcome ρ)
    (stored : Option String) : Tags :=
  timing.tags.server flight.method flight.template outcome.status
    (timing.exceptionOf stored outcome)

/-- Some tasks run since a reading, or are ended where there is none, and other than that nothing is to
be seen: no other task, and no meter of another kind, is changed, or comes or goes. -/
structure SetsTasks (before after : Registry) (own : List Sample) (reading : Option UInt64) :
    Prop where
  continues : Continues before after
  tasks : ∀ sample, after.startOf? sample =
    if sample ∈ own then reading else before.startOf? sample
  others : ∀ handle meter, meter.kind ≠ .longTaskTimer →
    (after.meter? handle = some meter ↔ before.meter? handle = some meter)

/-- An operation was recorded once for each descriptor that could have its timer, and other than that
nothing is to be seen. -/
structure Observes (before after : Registry) (serverRequests : Option String) (tags : Tags)
    (duration : Duration) (timings : List Timed) : Prop where
  continues : Continues before after
  /-- A descriptor that is granted a timer in its turn leads to it in the end, and one that is refused
  leads to none. -/
  turns : ∀ earlier timed later, timings = earlier ++ timed :: later →
    (before.recordAll serverRequests tags duration earlier).timerFor? serverRequests tags timed =
      after.heldFor? .timer serverRequests (tags.merge ·.extraTags) timed
  /-- What was there has seen the operation once for each descriptor that leads to it. -/
  observed : ∀ handle meter, before.meter? handle = some meter →
    after.meter? handle = some ((Meter.record duration)^[after.leading serverRequests tags timings
      handle] meter)
  /-- What is new has seen it as often, and is a timer or shows a quantile of one. -/
  added : ∀ handle meter, before.meter? handle = none → after.meter? handle = some meter →
    ∃ fresh : Meter, OfTimer fresh.instrument ∧
      meter = (Meter.record duration)^[after.leading serverRequests tags timings handle] fresh
  tasks : ∀ sample, after.startOf? sample = before.startOf? sample

theorem startAll_setsTasks (indexed : WellIndexed registry) (numbered : registry.TasksNumbered)
    (serverRequests : Option String) (timings : List Timed) :
    SetsTasks registry (registry.startAll serverRequests timings).2
      (registry.startAll serverRequests timings).1 (some registry.clock.nanos) := by
  have starts := Registry.startAll_starts serverRequests registry timings
  exact ⟨starts.continues indexed, starts.startOf? numbered,
    fun _ _ other => starts.others numbered other⟩

theorem stopAll_setsTasks (indexed : WellIndexed registry) (samples : List Sample) :
    SetsTasks registry (registry.stopAll samples) samples none :=
  ⟨Registry.stopAll_continues indexed samples, Registry.startOf?_stopAll registry samples,
    fun _ _ => Registry.meter?_stopAll_iff registry samples⟩

theorem recordAll_observes (indexed : WellIndexed registry) (serverRequests : Option String)
    (tags : Tags) (duration : Duration) (timings : List Timed) :
    Observes registry (registry.recordAll serverRequests tags duration timings) serverRequests tags
      duration timings := by
  have records := Registry.recordAll_records serverRequests tags duration registry timings
  constructor
  case continues => exact records.continues indexed
  case turns =>
    rintro earlier timed later rfl
    exact Registry.recordAll_turn indexed serverRequests tags duration earlier later timed
  case observed => exact fun handle meter => records.meter? indexed
  case added => exact fun handle meter => records.meter?_of_new indexed
  case tasks =>
    intro sample
    rw [Registry.startOf?, Registry.tasksOf?_recordAll indexed, Registry.startOf?]

private theorem begin_of_lookup_none
    (unknown : timing.routes.lookup request.method request.target = none)
    (registry : Registry) : timing.begin request registry = none := by
  rw [Timing.begin, unknown]

theorem begin_of_lookup (found : timing.routes.lookup request.method request.target = some entry)
    (registry : Registry) :
    timing.begin request registry =
      some (⟨request.method, entry.template.pattern, entry.timings, registry.clock.nanos,
          (registry.startAll (some timing.requestsName) (Timed.longTasks entry.timings)).1⟩,
        (registry.startAll (some timing.requestsName) (Timed.longTasks entry.timings)).2) := by
  rw [Timing.begin, found]

/-- Completing a request ends its tasks and then records the time that it took. -/
theorem complete_observes (indexed : WellIndexed left) (timing : Timing)
    (flight : InFlight) (outcome : Outcome ρ) (stored : Option String) :
    ∃ ended, SetsTasks left ended flight.samples none ∧
      Observes ended (timing.complete flight outcome stored left) (some timing.requestsName)
        (timing.tagsOf flight outcome stored) (left.clock.since flight.start)
        (Timed.shortTasks flight.timings) := by
  have ends := stopAll_setsTasks indexed flight.samples
  refine ⟨left.stopAll flight.samples, ends, ?_⟩
  rw [← ends.continues.clock]
  exact recordAll_observes ends.continues.indexed _ _ _ _

/-- **Timing a request gets in nobody's way.** The handler's outcome is given on as it is. A request
that is not timed leaves the registry as the handler does. For a timed one, tasks are started, the
handler does what it does, these tasks are ended, and each other descriptor whose timer can be had in
its turn gets one observation of the time between beginning and end; nobody else's meters or tasks
are changed on the way. -/
theorem request_timing_is_transparent (clock : Clock) (commonTags : Tags)
    (history : List Operation) (timing : Timing) (request : Request) (behaviour : Behaviour ρ) :
    let registry := (Registry.new clock commonTags).run history
    match timing.routes.lookup request.method request.target with
    | none =>
      timing.call request behaviour.handle registry =
        (behaviour.outcome false registry, registry.run (behaviour.operations false registry))
    | some entry =>
      ∃ flight begun, timing.begin request registry = some (flight, begun) ∧
        flight.method = request.method ∧ flight.template = entry.template.pattern ∧
        SetsTasks registry begun flight.samples (some registry.clock.nanos) ∧
        let left := begun.run (behaviour.operations true begun)
        let outcome := behaviour.outcome true begun
        ∃ ended after, timing.call request behaviour.handle registry = (outcome, after) ∧
          SetsTasks left ended flight.samples none ∧
          Observes ended after (some timing.requestsName)
            (timing.tagsOf flight outcome (behaviour.stored true begun))
            (left.clock.since registry.clock.nanos) (Timed.shortTasks entry.timings) := by
  intro registry
  have indexed : WellIndexed registry := Registry.history_wellIndexed clock commonTags history
  have numbered : registry.TasksNumbered := Registry.history_tasksNumbered clock commonTags history
  cases found : timing.routes.lookup request.method request.target with
  | none =>
    rw [Timing.call, begin_of_lookup_none found]
    rfl
  | some entry =>
    have begins := begin_of_lookup found registry
    have opens := startAll_setsTasks indexed numbered (some timing.requestsName)
      (Timed.longTasks entry.timings)
    refine ⟨_, _, begins, rfl, rfl, opens, ?_⟩
    intro left outcome
    have indexedLeft : WellIndexed left :=
      (Registry.run_keeps opens.continues.indexed (behaviour.operations true _)).1
    obtain ⟨ended, ends, observes⟩ := complete_observes indexedLeft timing
      ⟨request.method, entry.template.pattern, entry.timings, registry.clock.nanos, _⟩ outcome
      (behaviour.stored true _)
    refine ⟨ended, _, ?_, ends, observes⟩
    rw [Timing.call, begins]
    rfl

end Telemetry.Server
