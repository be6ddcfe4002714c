import Telemetry.Proofs.Meter.Timings
import Telemetry.Proofs.Registry.Tasks

/-! Timers while a registry is used. A timer takes in what is recorded on it, in that order, and nothing
else; so every timer of a registry is a new one that took some operations in. -/
namespace Telemetry

namespace Timings
variable {timings : Timings}

/-- What a new timer becomes by taking operations in. -/
def Recorded (timings : Timings) : Prop :=
  ∃ asked durations, timings = (Timings.new asked).recordAll durations

theorem recordAll_append (timings : Timings) (first second : List Duration) :
    timings.recordAll (first ++ second) = (timings.recordAll first).recordAll second :=
  List.foldl_append

theorem Recorded.recordAll (recorded : timings.Recorded) (durations : List Duration) :
    (timings.recordAll durations).Recorded := by
  obtain ⟨asked, earlier, rfl⟩ := recorded
  exact ⟨asked, earlier ++ durations, (recordAll_append _ earlier durations).symm⟩

theorem Recorded.quantiles_eq (recorded : timings.Recorded) :
    ∃ asked, timings.quantiles = normalQuantiles asked := by
  obtain ⟨asked, durations, rfl⟩ := recorded
  exact ⟨asked, quantiles_recordAll _ _⟩

end Timings

private theorem Meter.timings?_increment (amount : UInt64) (meter : Meter) :
    (meter.increment amount).timings? = meter.timings? := by
  obtain ⟨id, instrument⟩ := meter
  cases instrument <;> rfl

private theorem Meter.timings?_record (duration : Duration) (meter : Meter) :
    (meter.record duration).timings? = meter.timings?.map (·.record duration) := by
  obtain ⟨id, instrument⟩ := meter
  cases instrument <;> rfl

private theorem Meter.timings?_mapTasks (change : LongTasks → LongTasks) (meter : Meter) :
    (meter.mapTasks change).timings? = meter.timings? := by
  obtain ⟨id, instrument⟩ := meter
  cases instrument <;> rfl

private theorem Meter.recordTimes_succ (duration : Duration) (times : Nat) (meter : Meter) :
    meter.recordTimes duration (times + 1) = (meter.record duration).recordTimes duration times := by
  obtain ⟨id, instrument⟩ := meter
  cases instrument with
  | timer timings => simp only [recordTimes, record, Timings.recordTimes_succ]
  | _ => rfl

namespace Registry
variable {registry : Registry} {timer : Handle} {timings : Timings}

/-- The state of a timer. -/
def timingsOf? (registry : Registry) (timer : Handle) : Option Timings :=
  (registry.meter? timer).bind Meter.timings?

/-- What an operation records on a timer. -/
def Operation.recordedOn (timer : Handle) : Operation → List Duration
  | .record target duration => if target = timer then [duration] else []
  | _ => []

private theorem timings?_onMeter (now : UInt64) (handle : Handle) (meter : Meter)
    (operation : Operation) :
    (operation.onMeter now handle meter).timings? =
      meter.timings?.map (·.recordAll (operation.recordedOn handle)) := by
  have unchanged : meter.timings? = meter.timings?.map (·.recordAll []) := by
    cases meter.timings? <;> rfl
  have other {p : Prop} [Decidable p] {changed : Meter} (same : changed.timings? = meter.timings?) :
      (if p then changed else meter).timings? = meter.timings?.map (·.recordAll []) := by
    rw [← unchanged]
    split
    · exact same
    · rfl
  cases operation with
  | increment target amount => exact other (Meter.timings?_increment amount meter)
  | record target duration =>
    simp only [Operation.onMeter, Operation.recordedOn]
    split
    · exact Meter.timings?_record duration meter
    · exact unchanged
  | startTask target => exact other (Meter.timings?_mapTasks _ meter)
  | stopTask sample => exact other (Meter.timings?_mapTasks _ meter)
  | _ => exact unchanged

theorem timingsOf?_eq_some_iff : registry.timingsOf? timer = some timings ↔
    ∃ meter, registry.meter? timer = some meter ∧ meter.timings? = some timings :=
  Option.bind_eq_some_iff

private theorem timingsOf?_perform (held : registry.timingsOf? timer = some timings)
    (operation : Operation) :
    (registry.perform operation).timingsOf? timer =
      some (timings.recordAll (operation.recordedOn timer)) := by
  obtain ⟨meter, heldMeter, isTimer⟩ := timingsOf?_eq_some_iff.mp held
  rw [timingsOf?, meter?_perform heldMeter, Option.bind_some, timings?_onMeter, isTimer,
    Option.map_some]

/-- A timer takes in what is recorded on it, in that order, and nothing else. -/
theorem timingsOf?_run (held : registry.timingsOf? timer = some timings)
    (operations : List Operation) :
    (registry.run operations).timingsOf? timer =
      some (timings.recordAll (operations.flatMap (Operation.recordedOn timer))) := by
  induction operations generalizing registry timings with
  | nil => exact held
  | cons operation rest ih =>
    have step := timingsOf?_perform held operation
    rw [run, List.foldl_cons, ← run, ih step, List.flatMap_cons, Timings.recordAll_append]

/-- Each timer is what its operations made of a new one. -/
def TimersRecorded (registry : Registry) : Prop :=
  ∀ timer timings, registry.timingsOf? timer = some timings → timings.Recorded

theorem perform_timersRecorded (recorded : registry.TimersRecorded) (operation : Operation) :
    (registry.perform operation).TimersRecorded := by
  intro timer timings held
  obtain ⟨meter, heldMeter, isTimer⟩ := timingsOf?_eq_some_iff.mp held
  rcases meter?_perform_cases heldMeter with ⟨old, heldOld, rfl⟩ | ⟨-, isFresh⟩
  · rw [timings?_onMeter] at isTimer
    obtain ⟨oldTimings, isOld, rfl⟩ := Option.map_eq_some_iff.mp isTimer
    exact (recorded timer _ (timingsOf?_eq_some_iff.mpr ⟨old, heldOld, isOld⟩)).recordAll _
  · obtain ⟨id, instrument⟩ := meter
    cases isFresh with
    | timer asked =>
      cases isTimer
      exact ⟨asked, [], rfl⟩
    | _ => cases isTimer

theorem run_timersRecorded (recorded : registry.TimersRecorded) (operations : List Operation) :
    (registry.run operations).TimersRecorded := by
  induction operations generalizing registry with
  | nil => exact recorded
  | cons operation rest ih => exact ih (perform_timersRecorded recorded operation)

theorem history_timersRecorded (clock : Clock) (commonTags : Tags) (history : List Operation) :
    ((Registry.new clock commonTags).run history).TimersRecorded := by
  refine run_timersRecorded (fun timer timings held => ?_) history
  cases held

/-- Recording operations of one length at once comes to the same as recording them one by one. -/
theorem recordTimes_eq_run (registry : Registry) (timer : Handle) (duration : Duration)
    (times : Nat) :
    registry.recordTimes timer duration times =
      registry.run (List.replicate times (.record timer duration)) := by
  induction times generalizing registry with
  | zero =>
    refine modify_eq_self timer fun meter _ => ?_
    obtain ⟨id, instrument⟩ := meter
    cases instrument <;> rfl
  | succ times ih =>
    have step : registry.recordTimes timer duration (times + 1) =
        (registry.record timer duration).recordTimes timer duration times := by
      simp only [recordTimes, record, modify, List.modify_modify_eq]
      congr 2
      funext meter
      exact Meter.recordTimes_succ duration times meter
    rw [step, ih]
    rfl

end Registry
end Telemetry
