import Mathlib.Logic.Function.Iterate
import Telemetry.Proofs.Timed.Starting

/-! Recording one operation for each of some descriptors. A timer gets one observation for each
descriptor that leads to it, and nothing else that was there is changed; what is new are timers and
the gauges of their quantiles. -/
namespace Telemetry.Registry

/-- The timer that is granted to a descriptor, with the tags of the operation under its own. -/
def timerFor? (registry : Registry) (serverRequests : Option String) (tags : Tags)
    (timed : Timed) : Option Handle :=
  (timed.resolve? serverRequests).bind fun name =>
    (registry.timer name (tags.merge timed.extraTags) timed.quantiles).toOption.map (·.1)

/-- Recording an operation, one descriptor after the other. -/
inductive Records (serverRequests : Option String) (tags : Tags) (duration : Duration) :
    Registry → List Timed → Registry → Prop where
  | done : Records serverRequests tags duration registry [] registry
  | unnamed (missing : timed.resolve? serverRequests = none)
      (rest : Records serverRequests tags duration registry timings after) :
      Records serverRequests tags duration registry (timed :: timings) after
  | refused (named : timed.resolve? serverRequests = some name)
      (refusal : registry.timer name (tags.merge timed.extraTags) timed.quantiles = .error error)
      (rest : Records serverRequests tags duration registry timings after) :
      Records serverRequests tags duration registry (timed :: timings) after
  | recorded {registry middle after : Registry} {handle : Handle}
      (named : timed.resolve? serverRequests = some name)
      (granted : registry.timer name (tags.merge timed.extraTags) timed.quantiles =
        .ok (handle, middle))
      (rest : Records serverRequests tags duration (middle.record handle duration) timings after) :
      Records serverRequests tags duration registry (timed :: timings) after

/-- How many descriptors lead to a timer. -/
def leading (registry : Registry) (serverRequests : Option String) (tags : Tags)
    (timings : List Timed) (handle : Handle) : Nat :=
  timings.countP fun timed =>
    registry.heldFor? .timer serverRequests (tags.merge ·.extraTags) timed = some handle

variable {registry after middle : Registry} {serverRequests : Option String} {tags : Tags}
  {duration : Duration} {timings : List Timed} {timed : Timed} {handle : Handle} {meter : Meter}
  {name : String}

theorem recordAll_records (serverRequests : Option String) (tags : Tags) (duration : Duration)
    (registry : Registry) (timings : List Timed) :
    Records serverRequests tags duration registry timings
      (registry.recordAll serverRequests tags duration timings) := by
  induction timings generalizing registry with
  | nil => exact .done
  | cons timed rest ih =>
    rw [recordAll, List.foldl_cons, ← recordAll]
    cases named : timed.resolve? serverRequests with
    | none => exact .unnamed named (ih registry)
    | some name =>
      cases asked : registry.timer name (tags.merge timed.extraTags) timed.quantiles with
      | error error =>
        simp only [recordNamed, asked]
        exact .refused named asked (ih registry)
      | ok answer =>
        simp only [recordNamed, asked]
        exact .recorded named asked (ih _)

namespace Records

theorem continues (records : Records serverRequests tags duration registry timings after)
    (indexed : WellIndexed registry) : Continues registry after := by
  induction records with
  | done => exact .refl indexed
  | unnamed missing rest ih => exact ih indexed
  | refused named refusal rest ih => exact ih indexed
  | @recorded _ _ _ _ _ _ handle named granted rest ih =>
    have asking := timer_continues indexed granted
    have recording := record_continues asking.indexed handle duration
    exact asking.trans (recording.trans (ih recording.indexed))

/-- The first descriptor is granted a timer exactly if it can be had in the end. -/
theorem head (records : Records serverRequests tags duration registry (timed :: timings) after)
    (indexed : WellIndexed registry) :
    registry.timerFor? serverRequests tags timed =
      after.heldFor? .timer serverRequests (tags.merge ·.extraTags) timed := by
  cases records with
  | unnamed missing rest => rw [timerFor?, heldFor?, missing, Option.bind_none, Option.bind_none]
  | refused named refusal rest =>
    rw [timerFor?, heldFor?, named, Option.bind_some, Option.bind_some, refusal]
    exact (held?_of_timer_refused indexed refusal (rest.continues indexed)).symm
  | @recorded _ _ _ _ _ _ handle named granted rest =>
    rw [timerFor?, heldFor?, named, Option.bind_some, Option.bind_some, granted]
    have asking := timer_continues indexed granted
    have recording := record_continues asking.indexed handle duration
    exact (held?_of_timer_granted indexed granted
      (recording.trans (rest.continues recording.indexed))).symm

private theorem leading_cons
    (records : Records serverRequests tags duration registry (timed :: timings) after)
    (indexed : WellIndexed registry) (handle : Handle) :
    after.leading serverRequests tags (timed :: timings) handle =
      after.leading serverRequests tags timings handle +
        if registry.timerFor? serverRequests tags timed = some handle then 1 else 0 := by
  rw [leading, List.countP_cons, records.head indexed]
  simp only [decide_eq_true_eq, leading]

/-- The one who records is the one whose timer has seen one operation more. -/
theorem meter?_recorded {target : Handle} (duration : Duration)
    (named : timed.resolve? serverRequests = some name)
    (granted : registry.timer name (tags.merge timed.extraTags) timed.quantiles =
      .ok (target, middle)) (held : middle.meter? handle = some meter) :
    (middle.record target duration).meter? handle =
      some ((Meter.record duration)^[if registry.timerFor? serverRequests tags timed = some handle
        then 1 else 0] meter) := by
  rw [record, meter?_modify, held, timerFor?, named, Option.bind_some, granted]
  simp only [Except.toOption, Option.map_some, Option.some.injEq]
  split <;> rfl

/-- A meter that was there has seen one operation more for each descriptor that leads to it. -/
theorem meter? (records : Records serverRequests tags duration registry timings after)
    (indexed : WellIndexed registry) (held : registry.meter? handle = some meter) :
    after.meter? handle =
      some ((Meter.record duration)^[after.leading serverRequests tags timings handle] meter) := by
  induction records generalizing meter with
  | done => exact held
  | unnamed missing rest ih =>
    rw [(Records.unnamed missing rest).leading_cons indexed, timerFor?, missing]
    exact ih indexed held
  | refused named refusal rest ih =>
    rw [(Records.refused named refusal rest).leading_cons indexed, timerFor?, named,
      Option.bind_some, refusal]
    exact ih indexed held
  | recorded named granted rest ih =>
    have asking := timer_continues indexed granted
    rw [(Records.recorded named granted rest).leading_cons indexed, Function.iterate_add_apply]
    exact ih (record_continues asking.indexed _ duration).indexed
      (meter?_recorded duration named granted ((timer_extends granted).meter? held))

/-- A meter that is new is a timer that has seen the operations of the descriptors that lead to it, or
shows a quantile of one. -/
theorem meter?_of_new (records : Records serverRequests tags duration registry timings after)
    (indexed : WellIndexed registry) (unknown : registry.meter? handle = none)
    (held : after.meter? handle = some meter) :
    ∃ fresh : Meter, OfTimer fresh.instrument ∧
      meter = (Meter.record duration)^[after.leading serverRequests tags timings handle] fresh := by
  induction records with
  | done =>
    rw [unknown] at held
    cases held
  | unnamed missing rest ih =>
    rw [(Records.unnamed missing rest).leading_cons indexed, timerFor?, missing]
    exact ih indexed unknown held
  | refused named refusal rest ih =>
    rw [(Records.refused named refusal rest).leading_cons indexed, timerFor?, named,
      Option.bind_some, refusal]
    exact ih indexed unknown held
  | @recorded _ _ _ registry middle after target named granted rest ih =>
    have asking := timer_continues indexed granted
    have recording := record_continues asking.indexed target duration
    rw [(Records.recorded named granted rest).leading_cons indexed]
    cases known : middle.meter? handle with
    | none =>
      -- The descriptor is given a timer that is known by then, so it does not count here.
      have apart : target ≠ handle := by
        rintro rfl
        obtain ⟨own, heldOwn, -⟩ :=
          meter?_of_held? (held?_of_timer_granted indexed granted (.refl asking.indexed))
        rw [known] at heldOwn
        cases heldOwn
      have heldNext : (middle.record target duration).meter? handle = none := by
        rw [record, meter?_modify, known, Option.map_none]
      rw [timerFor?, named, Option.bind_some, granted]
      simpa [Except.toOption, apart] using ih recording.indexed heldNext held
    | some fresh =>
      rcases (timer_extends granted).meter?_cases known with old | ⟨-, isNew⟩
      · rw [unknown] at old
        cases old
      · have seen := rest.meter? recording.indexed
          (meter?_recorded duration named granted known)
        rw [← Function.iterate_add_apply, held, Option.some.injEq] at seen
        exact ⟨fresh, isNew, seen⟩

end Records

/-! ## In their turn -/

/-- A descriptor whose turn comes is granted a timer exactly if that timer can be had in the end. -/
theorem recordAll_turn (indexed : WellIndexed registry) (serverRequests : Option String)
    (tags : Tags) (duration : Duration) (earlier later : List Timed) (timed : Timed) :
    (registry.recordAll serverRequests tags duration earlier).timerFor? serverRequests tags timed =
      (registry.recordAll serverRequests tags duration (earlier ++ timed :: later)).heldFor? .timer
        serverRequests (tags.merge ·.extraTags) timed := by
  rw [recordAll, recordAll, List.foldl_append, ← recordAll, ← recordAll]
  have before := (recordAll_records serverRequests tags duration registry earlier).continues indexed
  exact (recordAll_records serverRequests tags duration _ (timed :: later)).head before.indexed

/-! ## The tasks meanwhile -/

private theorem tasks?_iterate_record (duration : Duration) (count : Nat) (meter : Meter) :
    ((Meter.record duration)^[count] meter).tasks? = meter.tasks? := by
  induction count with
  | zero => rfl
  | succ count ih => rw [Function.iterate_succ_apply', Meter.tasks?_record, ih]

/-- No task is started or ended. -/
theorem tasksOf?_recordAll (indexed : WellIndexed registry) (serverRequests : Option String)
    (tags : Tags) (duration : Duration) (timings : List Timed) (handle : Handle) :
    (registry.recordAll serverRequests tags duration timings).tasksOf? handle =
      registry.tasksOf? handle := by
  have records := recordAll_records serverRequests tags duration registry timings
  simp only [tasksOf?]
  cases held : registry.meter? handle with
  | some meter =>
    rw [records.meter? indexed held, Option.bind_some, Option.bind_some, tasks?_iterate_record]
  | none =>
    cases heldAfter : (registry.recordAll serverRequests tags duration timings).meter? handle with
    | none => rfl
    | some meter =>
      obtain ⟨⟨id, instrument⟩, isNew, rfl⟩ := records.meter?_of_new indexed held heldAfter
      rw [Option.bind_some, tasks?_iterate_record]
      cases isNew <;> rfl

end Telemetry.Registry
