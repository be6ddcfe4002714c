import Telemetry.Proofs.Server.Timing

/-! The long tasks of a request. They run from its beginning to its end, whichever end that is: they are
taken away once, and by nobody but the request that they belong to. -/
namespace Telemetry.Server
open Registry (Operation WellIndexed)
variable {ρ : Type} {registry begun left : Registry} {timing : Timing} {request : Request}
  {flight : InFlight}

/-- How a request ends: it was handled, with an answer or a fault, or it was given up on the way. -/
inductive Exit (ρ : Type) where
  | completed (outcome : Outcome ρ) (stored : Option String)
  | dropped

/-- What is done when a request ends. -/
def Timing.leave (timing : Timing) (flight : InFlight) (registry : Registry) : Exit ρ → Registry
  | .completed outcome stored => timing.complete flight outcome stored registry
  | .dropped => Timing.cancel flight registry

/-- Calling a handler is beginning, handling, and leaving with what the handler gave. -/
theorem call_eq_leave (begins : timing.begin request registry = some (flight, begun))
    (behaviour : Behaviour ρ) :
    timing.call request behaviour.handle registry =
      (behaviour.outcome true begun,
        timing.leave flight (begun.run (behaviour.operations true begun))
          (.completed (behaviour.outcome true begun) (behaviour.stored true begun))) := by
  rw [Timing.call, begins]
  rfl

/-- Whichever way a request ends, the tasks afterwards are those that ending its own leaves. -/
theorem tasksOf?_leave (indexed : WellIndexed left) (timing : Timing) (flight : InFlight)
    (exit : Exit ρ) (timer : Handle) :
    (timing.leave flight left exit).tasksOf? timer =
      (left.stopAll flight.samples).tasksOf? timer := by
  cases exit with
  | completed outcome stored =>
    have ends := stopAll_setsTasks indexed flight.samples
    exact Registry.tasksOf?_recordAll ends.continues.indexed _ _ _ _ timer
  | dropped => rfl

/-- The tasks of a request, as it begins. -/
structure Owns (before after : Registry) (serverRequests : Option String) (timings : List Timed)
    (own : List Sample) : Prop where
  /-- There is one for each descriptor whose timer can be had, in their order. -/
  timers : own.map (·.timer) =
    timings.filterMap (after.heldFor? .longTaskTimer serverRequests (·.extraTags))
  /-- A descriptor that is granted a timer in its turn leads to it in the end, and one that is refused
  leads to none. -/
  turns : ∀ earlier timed later, timings = earlier ++ timed :: later →
    (before.startAll serverRequests earlier).2.taskTimerFor? serverRequests timed =
      after.heldFor? .longTaskTimer serverRequests (·.extraTags) timed
  distinct : own.Nodup
  unused : ∀ sample ∈ own, ¬ before.Issued sample
  issued : ∀ sample ∈ own, after.Issued sample

theorem startAll_owns (indexed : WellIndexed registry) (numbered : registry.TasksNumbered)
    (serverRequests : Option String) (timings : List Timed) :
    Owns registry (registry.startAll serverRequests timings).2 serverRequests timings
      (registry.startAll serverRequests timings).1 := by
  have starts := Registry.startAll_starts serverRequests registry timings
  constructor
  case timers => exact starts.timers indexed numbered
  case turns =>
    rintro earlier timed later rfl
    exact Registry.startAll_turn indexed serverRequests earlier later timed
  case distinct => exact starts.nodup numbered
  case unused => exact fun sample member => (starts.new numbered member).1
  case issued => exact fun sample member => (starts.new numbered member).2

/-- What becomes of the tasks of a request when it ends. -/
structure Releases (left after : Registry) (own : List Sample) (start : UInt64) : Prop where
  /-- Until then they have all been running since the beginning. -/
  running : ∀ sample ∈ own, left.startOf? sample = some start
  /-- They are gone, whatever is done from then on. -/
  gone : ∀ sample ∈ own, ∀ afterwards, (after.run afterwards).startOf? sample = none
  /-- The tasks of everybody else are where they were. -/
  others : ∀ sample, sample ∉ own → after.startOf? sample = left.startOf? sample
  /-- Each timer shows as many tasks less as it had of these. -/
  active : ∀ timer tasks, left.tasksOf? timer = some tasks →
    ∃ rest, after.tasksOf? timer = some rest ∧
      rest.active + own.countP (·.timer = timer) = tasks.active

/-- Whoever leaves the tasks that ending one's own leaves has released them. -/
theorem releases_of_stopAll {own : List Sample} {start : UInt64} {after : Registry}
    (numbered : left.TasksNumbered) (distinct : own.Nodup)
    (running : ∀ sample ∈ own, left.startOf? sample = some start)
    (same : ∀ timer, after.tasksOf? timer = (left.stopAll own).tasksOf? timer) :
    Releases left after own start := by
  have stopped (sample : Sample) :
      after.startOf? sample = if sample ∈ own then none else left.startOf? sample := by
    rw [Registry.startOf?, same, ← Registry.startOf?]
    exact Registry.startOf?_stopAll left own sample
  have numberedAfter : after.TasksNumbered := by
    intro timer tasks held
    rw [same, Registry.stopAll_eq_run] at held
    exact Registry.run_tasksNumbered numbered _ timer tasks held
  constructor
  case running => exact running
  case gone =>
    intro sample member afterwards
    have issued : after.Issued sample := by
      rw [Registry.Issued, same, Registry.stopAll_eq_run]
      exact (Registry.Issued.of_startOf? numbered (running sample member)).run _
    rw [Registry.startOf?_run_of_issued numberedAfter issued, stopped, if_pos member, ite_self]
  case others =>
    intro sample other
    rw [stopped, if_neg other]
  case active =>
    intro timer tasks held
    have runs (sample) (member : sample ∈ own) : (left.startOf? sample).isSome := by
      rw [running sample member]
      rfl
    obtain ⟨rest, heldRest, count⟩ := Registry.active_stopAll numbered distinct runs held
    exact ⟨rest, (same timer).trans heldRest, count⟩

private theorem leave_releases (indexed : WellIndexed left) (numbered : left.TasksNumbered)
    (distinct : flight.samples.Nodup) {start : UInt64}
    (running : ∀ sample ∈ flight.samples, left.startOf? sample = some start) (timing : Timing)
    (exit : Exit ρ) : Releases left (timing.leave flight left exit) flight.samples start :=
  releases_of_stopAll numbered distinct running (tasksOf?_leave indexed timing flight exit)

/-- **Long tasks last as long as their request**, on every way out. Each descriptor whose long-task
timer can be had in its turn owns one task of it from the beginning on. Whatever is done while the
request is handled, short of ending a task that is not one's own, these tasks run on; when the request
ends they are gone, for good, and no other task is. A request that is given up, be it at once, leaves
no observation. -/
theorem long_tasks_bracket_the_request (clock : Clock) (commonTags : Tags)
    (history : List Operation) (timing : Timing) (request : Request) {entry : Route.Entry Pattern}
    (found : timing.routes.lookup request.method request.target = some entry) :
    let registry := (Registry.new clock commonTags).run history
    ∃ flight begun, timing.begin request registry = some (flight, begun) ∧
      SetsTasks registry begun flight.samples (some registry.clock.nanos) ∧
      Owns registry begun (some timing.requestsName) (Timed.longTasks entry.timings)
        flight.samples ∧
      ∀ during : List Operation, (∀ sample ∈ flight.samples, .stopTask sample ∉ during) →
        let left := begun.run during
        (∀ exit : Exit ρ,
          Releases left (timing.leave flight left exit) flight.samples registry.clock.nanos) ∧
        (Timing.cancel flight left).index = left.index ∧
        SetsTasks left (Timing.cancel flight left) flight.samples none ∧
        ∀ behaviour : Behaviour ρ, behaviour.operations true begun = during →
          timing.call request behaviour.handle registry =
            (behaviour.outcome true begun, timing.leave flight left
              (.completed (behaviour.outcome true begun) (behaviour.stored true begun))) := by
  intro registry
  have indexed : WellIndexed registry := Registry.history_wellIndexed clock commonTags history
  have numbered : registry.TasksNumbered := Registry.history_tasksNumbered clock commonTags history
  have begins := begin_of_lookup found registry
  have opens := startAll_setsTasks indexed numbered (some timing.requestsName)
    (Timed.longTasks entry.timings)
  have owns := startAll_owns indexed numbered (some timing.requestsName)
    (Timed.longTasks entry.timings)
  have numberedBegun := (Registry.startAll_starts (some timing.requestsName) registry
    (Timed.longTasks entry.timings)).tasksNumbered numbered
  refine ⟨_, _, begins, opens, owns, fun during owned => ?_⟩
  have indexedLeft := (Registry.run_keeps opens.continues.indexed during).1
  have numberedLeft := Registry.run_tasksNumbered numberedBegun during
  refine ⟨leave_releases indexedLeft numberedLeft owns.distinct (fun sample own => ?_) timing,
    Registry.stopAll_index _ _, stopAll_setsTasks indexedLeft _, ?_⟩
  · rw [Registry.startOf?_run_of_issued numberedBegun (owns.issued sample own) during,
      if_neg (owned sample own), opens.tasks, if_pos own]
  · rintro behaviour rfl
    exact call_eq_leave begins behaviour

/-- A route with three long tasks: two of one timer, and one under the name of a counter. -/
def uploadRoute : Route.Entry Pattern :=
  ⟨none, ⟨"/uploads", [.literal "uploads".toList]⟩,
    [{ Timed.named "uploads" with longTask := true }, { Timed.named "rows" with longTask := true },
      .serverRequests, { Timed.named "uploads" with longTask := true }]⟩

/-- Uploads are timed, and nothing else. -/
def uploads : Timing where
  routes := [uploadRoute]

/-- The registry is cleared during an upload, and somebody else starts a task; then it is given up. -/
theorem upload_brackets :
    let registry := (Registry.new ⟨0, 0⟩ .empty).run [.counter "rows" .empty, .advance ⟨7⟩]
    let during : List Operation := [.startTask ⟨1⟩, .clear, .advance ⟨5⟩]
    uploads.routes.lookup "PUT" (.path "/uploads") = some uploadRoute ∧
    ∃ flight begun, uploads.begin ⟨"PUT", .path "/uploads"⟩ registry = some (flight, begun) ∧
      flight.samples = [⟨⟨1⟩, 0⟩, ⟨⟨1⟩, 1⟩] ∧
      (∀ exit : Exit Unit, Releases (begun.run during)
        (uploads.leave flight (begun.run during) exit) flight.samples 7) ∧
      (Timing.cancel flight (begun.run during)).tasksOf? ⟨1⟩ = some ⟨3, [(2, 7)]⟩ := by
  intro registry during
  let request : Request := ⟨"PUT", .path "/uploads"⟩
  have found : uploads.routes.lookup request.method request.target = some uploadRoute := rfl
  have now : registry.clock.nanos = 7 := by decide +kernel
  obtain ⟨flight, begun, begins, -, -, bracketed⟩ := long_tasks_bracket_the_request ⟨0, 0⟩ .empty
    [.counter "rows" .empty, .advance ⟨7⟩] uploads request found
  have same := begin_of_lookup found registry
  rw [same] at begins
  cases begins
  have samples : (registry.startAll (some uploads.requestsName)
      (Timed.longTasks uploadRoute.timings)).1 = [⟨⟨1⟩, 0⟩, ⟨⟨1⟩, 1⟩] := by decide +kernel
  have owned : ∀ sample ∈ ([⟨⟨1⟩, 0⟩, ⟨⟨1⟩, 1⟩] : List Sample), .stopTask sample ∉ during := by decide
  rw [samples] at bracketed
  obtain ⟨released, -⟩ := bracketed during owned
  rw [now] at released
  refine ⟨found, _, _, same, samples, ?_, by decide +kernel⟩
  rw [samples]
  exact released

end Telemetry.Server
