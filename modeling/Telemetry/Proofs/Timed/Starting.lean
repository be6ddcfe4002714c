import Telemetry.Proofs.Registry.Holding
import Telemetry.Timed.Basic

/-! Starting a task for each of some descriptors, and ending these tasks again. A descriptor gets one
new sample if its long-task timer can be had, and the samples of everybody else stay as they are. -/
namespace Telemetry.Registry

/-- The meter of a kind that a descriptor leads to, with the tags that it is used under. -/
def heldFor? (registry : Registry) (kind : MeterKind) (serverRequests : Option String)
    (tagsOf : Timed → Tags) (timed : Timed) : Option Handle :=
  (timed.resolve? serverRequests).bind fun name => registry.held? kind name (tagsOf timed)

/-- The long-task timer that is granted to a descriptor. -/
def taskTimerFor? (registry : Registry) (serverRequests : Option String) (timed : Timed) :
    Option Handle :=
  (timed.resolve? serverRequests).bind fun name =>
    (registry.longTaskTimer name timed.extraTags).toOption.map (·.1)

/-- Starting tasks, one descriptor after the other. -/
inductive Starts (serverRequests : Option String) :
    Registry → List Timed → List Sample → Registry → Prop where
  | done : Starts serverRequests registry [] [] registry
  | unnamed (missing : timed.resolve? serverRequests = none)
      (rest : Starts serverRequests registry timings samples after) :
      Starts serverRequests registry (timed :: timings) samples after
  | refused (named : timed.resolve? serverRequests = some name)
      (refusal : registry.longTaskTimer name timed.extraTags = .error error)
      (rest : Starts serverRequests registry timings samples after) :
      Starts serverRequests registry (timed :: timings) samples after
  | started (named : timed.resolve? serverRequests = some name)
      (granted : registry.longTaskTimer name timed.extraTags = .ok (handle, middle))
      (began : middle.startTask handle = some (sample, next))
      (rest : Starts serverRequests next timings samples after) :
      Starts serverRequests registry (timed :: timings) (sample :: samples) after

variable {registry before after middle next : Registry} {serverRequests : Option String}
  {timings : List Timed} {timed : Timed} {samples : List Sample} {sample : Sample}
  {handle : Handle} {meter : Meter} {name : String}

/-- A timer that was granted can be used. -/
private theorem startTask_of_granted {tags : Tags}
    (granted : registry.longTaskTimer name tags = .ok (handle, middle)) :
    ∃ sample next, middle.startTask handle = some (sample, next) := by
  obtain ⟨meter, found, isTimer⟩ := register_finds granted
  obtain ⟨tasks, running⟩ := Meter.exists_tasks?_of_kind isTimer
  have held := ((find?_eq_some_iff _).mp found).2
  exact ⟨_, _, by simp only [startTask, held, Option.bind_some, running]; rfl⟩

theorem startAll_starts (serverRequests : Option String) (registry : Registry)
    (timings : List Timed) :
    Starts serverRequests registry timings (registry.startAll serverRequests timings).1
      (registry.startAll serverRequests timings).2 := by
  induction timings generalizing registry with
  | nil => exact .done
  | cons timed rest ih =>
    cases named : timed.resolve? serverRequests with
    | none =>
      have skipped : registry.startAll serverRequests (timed :: rest) =
          registry.startAll serverRequests rest := by
        rw [startAll, named]
        rfl
      rw [skipped]
      exact .unnamed named (ih registry)
    | some name =>
      cases asked : registry.longTaskTimer name timed.extraTags with
      | error error =>
        have skipped : registry.startAll serverRequests (timed :: rest) =
            registry.startAll serverRequests rest := by
          rw [startAll, named, Option.bind_some, startNamed, asked]
        rw [skipped]
        exact .refused named asked (ih registry)
      | ok answer =>
        obtain ⟨handle, middle⟩ := answer
        obtain ⟨sample, next, began⟩ := startTask_of_granted asked
        have taken : registry.startAll serverRequests (timed :: rest) =
            (sample :: (next.startAll serverRequests rest).1,
              (next.startAll serverRequests rest).2) := by
          rw [startAll, named, Option.bind_some, startNamed, asked]
          simp only [began]
        rw [taken]
        exact .started named asked began (ih next)

/-- New meters leave every sample as it is: on a new long-task timer nothing runs. -/
theorem Extends.startOf? (growth : Extends Fresh before after) (sample : Sample) :
    after.startOf? sample = before.startOf? sample := by
  simp only [Registry.startOf?, tasksOf?]
  cases held : before.meter? sample.timer with
  | some meter => rw [growth.meter? held]
  | none =>
    cases heldAfter : after.meter? sample.timer with
    | none => rfl
    | some meter =>
      rcases growth.meter?_cases heldAfter with old | ⟨-, isFresh⟩
      · rw [held] at old
        cases old
      · obtain ⟨id, instrument⟩ := meter
        cases isFresh <;> rfl

theorem Extends.issued {new : Instrument → Prop} (growth : Extends new before after)
    (issued : before.Issued sample) : after.Issued sample := by
  obtain ⟨tasks, held, below⟩ := issued
  obtain ⟨meter, heldMeter, isTasks⟩ := tasksOf?_eq_some_iff.mp held
  exact ⟨tasks, tasksOf?_eq_some_iff.mpr ⟨meter, growth.meter? heldMeter, isTasks⟩, below⟩

theorem Extends.tasksNumbered (growth : Extends Fresh before after)
    (numbered : before.TasksNumbered) : after.TasksNumbered := by
  intro timer tasks held
  obtain ⟨meter, heldMeter, isTasks⟩ := tasksOf?_eq_some_iff.mp held
  rcases growth.meter?_cases heldMeter with old | ⟨-, isFresh⟩
  · exact numbered timer tasks (tasksOf?_eq_some_iff.mpr ⟨meter, old, isTasks⟩)
  · obtain ⟨id, instrument⟩ := meter
    cases isFresh with
    | longTaskTimer =>
      cases isTasks
      exact LongTasks.empty_numbered
    | _ => cases isTasks

/-- What is different once a task was started on a timer that was granted: it has a sample of its own,
which was not given out before, and the samples of everybody else are as they were. -/
structure Begins (before : Registry) (timer : Handle) (sample : Sample) (after : Registry) :
    Prop where
  clock : after.clock = before.clock
  numbered : after.TasksNumbered
  timer : sample.timer = timer
  unused : ¬ before.Issued sample
  used : after.Issued sample
  issued : ∀ other, before.Issued other → after.Issued other
  startOf? : ∀ other, after.startOf? other =
    if other = sample then some before.clock.nanos else before.startOf? other
  others : ∀ handle meter, meter.kind ≠ .longTaskTimer →
    (after.meter? handle = some meter ↔ before.meter? handle = some meter)

private theorem startNamed_begins {tags : Tags} (numbered : registry.TasksNumbered)
    (granted : registry.longTaskTimer name tags = .ok (handle, middle))
    (began : middle.startTask handle = some (sample, next)) :
    Begins registry handle sample next := by
  have growth : Extends (· = .longTaskTimer .empty) registry middle := register_extends granted
  have fresh : Extends Fresh registry middle :=
    growth.mono fun _ same => same ▸ .longTaskTimer
  have numberedMiddle := fresh.tasksNumbered numbered
  have performed := startTask_eq_perform began
  obtain ⟨ofTimer, unused, used, startOf?⟩ := startTask_issues numberedMiddle began
  constructor
  case clock => rw [performed, perform_startTask, modify, growth.clock]
  case numbered => exact performed ▸ perform_tasksNumbered numberedMiddle _
  case timer => exact ofTimer
  case unused => exact fun issued => unused (growth.issued issued)
  case used => exact used
  case issued => exact fun other issued => performed ▸ (growth.issued issued).perform _
  case startOf? =>
    intro other
    rw [startOf? other, fresh.startOf?, growth.clock]
  case others =>
    intro target meter other
    rw [performed, perform_startTask, meter?_modify_mapTasks_iff _ _ other]
    refine ⟨fun held => ?_, growth.meter?⟩
    rcases growth.meter?_cases held with old | ⟨-, isNew⟩
    · exact old
    · rw [Meter.kind, isNew] at other
      exact absurd rfl other

namespace Starts

theorem continues (starts : Starts serverRequests registry timings samples after)
    (indexed : WellIndexed registry) : Continues registry after := by
  induction starts with
  | done => exact .refl indexed
  | unnamed missing rest ih => exact ih indexed
  | refused named refusal rest ih => exact ih indexed
  | started named granted began rest ih =>
    have asking := register_continues indexed granted
    have starting := startTask_continues asking.indexed began
    exact asking.trans (starting.trans (ih starting.indexed))

theorem tasksNumbered (starts : Starts serverRequests registry timings samples after)
    (numbered : registry.TasksNumbered) : after.TasksNumbered := by
  induction starts with
  | done => exact numbered
  | unnamed missing rest ih => exact ih numbered
  | refused named refusal rest ih => exact ih numbered
  | started named granted began rest ih => exact ih (startNamed_begins numbered granted began).numbered

/-- There is one sample for each descriptor whose long-task timer can be had, in their order. -/
theorem timers (starts : Starts serverRequests registry timings samples after)
    (indexed : WellIndexed registry) (numbered : registry.TasksNumbered) :
    samples.map (·.timer) =
      timings.filterMap (after.heldFor? .longTaskTimer serverRequests (·.extraTags)) := by
  induction starts with
  | done => rfl
  | unnamed missing rest ih =>
    rw [List.filterMap_cons_none, ih indexed numbered]
    rw [heldFor?, missing, Option.bind_none]
  | refused named refusal rest ih =>
    rw [List.filterMap_cons_none, ih indexed numbered]
    rw [heldFor?, named, Option.bind_some]
    exact held?_of_refused indexed refusal (rest.continues indexed)
  | started named granted began rest ih =>
    have asking := register_continues indexed granted
    have starting := startTask_continues asking.indexed began
    have begins := startNamed_begins numbered granted began
    have own := held?_of_granted granted asking.commonTags
      (starting.trans (rest.continues starting.indexed))
    rw [List.map_cons, ih starting.indexed begins.numbered, begins.timer]
    refine (List.filterMap_cons_some ?_).symm
    rw [heldFor?, named, Option.bind_some]
    exact own

/-- The first descriptor is granted a timer exactly if it can be had in the end. -/
theorem head (starts : Starts serverRequests registry (timed :: timings) samples after)
    (indexed : WellIndexed registry) :
    registry.taskTimerFor? serverRequests timed =
      after.heldFor? .longTaskTimer serverRequests (·.extraTags) timed := by
  cases starts with
  | unnamed missing rest => rw [taskTimerFor?, heldFor?, missing, Option.bind_none, Option.bind_none]
  | refused named refusal rest =>
    rw [taskTimerFor?, heldFor?, named, Option.bind_some, Option.bind_some, refusal]
    exact (held?_of_refused indexed refusal (rest.continues indexed)).symm
  | started named granted began rest =>
    rw [taskTimerFor?, heldFor?, named, Option.bind_some, Option.bind_some, granted]
    have asking := register_continues indexed granted
    have starting := startTask_continues asking.indexed began
    exact (held?_of_granted granted asking.commonTags
      (starting.trans (rest.continues starting.indexed))).symm

/-- The samples run from now on, and all other tasks are where they were. -/
theorem startOf? (starts : Starts serverRequests registry timings samples after)
    (numbered : registry.TasksNumbered) (sample : Sample) :
    after.startOf? sample =
      if sample ∈ samples then some registry.clock.nanos else registry.startOf? sample := by
  induction starts with
  | done => simp
  | unnamed missing rest ih => exact ih numbered
  | refused named refusal rest ih => exact ih numbered
  | started named granted began rest ih =>
    have begins := startNamed_begins numbered granted began
    rw [ih begins.numbered, begins.startOf?, begins.clock]
    grind

theorem issued (starts : Starts serverRequests registry timings samples after)
    (numbered : registry.TasksNumbered) (issued : registry.Issued sample) :
    after.Issued sample := by
  induction starts with
  | done => exact issued
  | unnamed missing rest ih => exact ih numbered issued
  | refused named refusal rest ih => exact ih numbered issued
  | started named granted began rest ih =>
    have begins := startNamed_begins numbered granted began
    exact ih begins.numbered (begins.issued _ issued)

/-- The samples are new ones. -/
theorem new (starts : Starts serverRequests registry timings samples after)
    (numbered : registry.TasksNumbered) (member : sample ∈ samples) :
    ¬ registry.Issued sample ∧ after.Issued sample := by
  induction starts with
  | done => cases member
  | unnamed missing rest ih => exact ih numbered member
  | refused named refusal rest ih => exact ih numbered member
  | started named granted began rest ih =>
    have begins := startNamed_begins numbered granted began
    rcases List.mem_cons.mp member with rfl | later
    · exact ⟨begins.unused, rest.issued begins.numbered begins.used⟩
    · obtain ⟨unusedNext, usedAfter⟩ := ih begins.numbered later
      exact ⟨mt (begins.issued _) unusedNext, usedAfter⟩

/-- No two descriptors share a sample, also where they share a timer. -/
theorem nodup (starts : Starts serverRequests registry timings samples after)
    (numbered : registry.TasksNumbered) : samples.Nodup := by
  induction starts with
  | done => exact .nil
  | unnamed missing rest ih => exact ih numbered
  | refused named refusal rest ih => exact ih numbered
  | started named granted began rest ih =>
    have begins := startNamed_begins numbered granted began
    refine List.nodup_cons.mpr ⟨fun again => ?_, ih begins.numbered⟩
    exact (rest.new begins.numbered again).1 begins.used

/-- No meter of another kind is changed, or comes or goes. -/
theorem others (starts : Starts serverRequests registry timings samples after)
    (numbered : registry.TasksNumbered) (other : meter.kind ≠ .longTaskTimer) :
    after.meter? handle = some meter ↔ registry.meter? handle = some meter := by
  induction starts with
  | done => exact Iff.rfl
  | unnamed missing rest ih => exact ih numbered
  | refused named refusal rest ih => exact ih numbered
  | started named granted began rest ih =>
    have begins := startNamed_begins numbered granted began
    exact (ih begins.numbered).trans (begins.others _ _ other)

end Starts

private theorem startAll_append (serverRequests : Option String) (registry : Registry)
    (earlier later : List Timed) :
    (registry.startAll serverRequests (earlier ++ later)).2 =
      ((registry.startAll serverRequests earlier).2.startAll serverRequests later).2 := by
  induction earlier generalizing registry with
  | nil => rfl
  | cons timed rest ih =>
    rw [List.cons_append, startAll, startAll]
    cases (timed.resolve? serverRequests).bind (registry.startNamed · timed.extraTags) with
    | none => exact ih registry
    | some answer => exact ih answer.2

/-- A descriptor whose turn comes is granted a timer exactly if that timer can be had in the end. -/
theorem startAll_turn (indexed : WellIndexed registry) (serverRequests : Option String)
    (earlier later : List Timed) (timed : Timed) :
    (registry.startAll serverRequests earlier).2.taskTimerFor? serverRequests timed =
      (registry.startAll serverRequests (earlier ++ timed :: later)).2.heldFor? .longTaskTimer
        serverRequests (·.extraTags) timed := by
  rw [startAll_append]
  have before := (startAll_starts serverRequests registry earlier).continues indexed
  exact (startAll_starts serverRequests _ (timed :: later)).head before.indexed

/-! ## Ending tasks -/

theorem stopAll_eq_run (registry : Registry) (samples : List Sample) :
    registry.stopAll samples = registry.run (samples.map .stopTask) := by
  rw [stopAll, run, List.foldl_map]
  rfl

theorem stopAll_index (registry : Registry) (samples : List Sample) :
    (registry.stopAll samples).index = registry.index := by
  induction samples generalizing registry with
  | nil => rfl
  | cons sample rest ih => exact ih (registry.stopTask sample)

theorem stopAll_continues (indexed : WellIndexed registry) (samples : List Sample) :
    Continues registry (registry.stopAll samples) := by
  induction samples generalizing registry with
  | nil => exact .refl indexed
  | cons sample rest ih =>
    have stopping := stopTask_continues indexed sample
    exact stopping.trans (ih stopping.indexed)

/-- Ending tasks is seen at these tasks only. -/
theorem startOf?_stopAll (registry : Registry) (samples : List Sample) (sample : Sample) :
    (registry.stopAll samples).startOf? sample =
      if sample ∈ samples then none else registry.startOf? sample := by
  induction samples generalizing registry with
  | nil => simp [stopAll]
  | cons ended rest ih =>
    rw [stopAll, List.foldl_cons, ← stopAll, ih, startOf?_stopTask]
    grind

theorem meter?_stopAll_iff (registry : Registry) (samples : List Sample)
    (other : meter.kind ≠ .longTaskTimer) :
    (registry.stopAll samples).meter? handle = some meter ↔ registry.meter? handle = some meter := by
  induction samples generalizing registry with
  | nil => exact Iff.rfl
  | cons ended rest ih =>
    exact (ih _).trans (meter?_modify_mapTasks_iff _ _ other)

/-- A timer has as many tasks less as running tasks of it are ended. -/
theorem active_stopAll (numbered : registry.TasksNumbered) (distinct : samples.Nodup)
    (running : ∀ sample ∈ samples, (registry.startOf? sample).isSome) {tasks : LongTasks}
    (held : registry.tasksOf? handle = some tasks) :
    ∃ left, (registry.stopAll samples).tasksOf? handle = some left ∧
      left.active + samples.countP (·.timer = handle) = tasks.active := by
  induction samples generalizing registry tasks with
  | nil => exact ⟨tasks, held, rfl⟩
  | cons sample rest ih =>
    obtain ⟨apart, distinctRest⟩ := List.nodup_cons.mp distinct
    have heldNext : (registry.perform (.stopTask sample)).tasksOf? handle = _ :=
      tasksOf?_perform held
    have runningRest : ∀ other ∈ rest, ((registry.stopTask sample).startOf? other).isSome := by
      intro other member
      have isOther : other ≠ sample := fun same => apart (same ▸ member)
      rw [startOf?_stopTask, if_neg isOther]
      exact running other (List.mem_cons_of_mem _ member)
    obtain ⟨left, heldLeft, count⟩ :=
      ih (perform_tasksNumbered numbered (.stopTask sample)) distinctRest runningRest heldNext
    refine ⟨left, heldLeft, ?_⟩
    rw [List.countP_cons]
    by_cases ofTimer : sample.timer = handle
    · obtain ⟨reading, found⟩ := Option.isSome_iff_exists.mp (running sample List.mem_cons_self)
      rw [startOf?, ofTimer, held, Option.bind_some] at found
      have less := (numbered handle tasks held).active_stop found
      rw [Operation.onTasks, if_pos ofTimer] at count
      simp only [ofTimer, decide_true, if_true]
      omega
    · rw [Operation.onTasks, if_neg ofTimer] at count
      simp only [ofTimer, decide_false, if_false, Bool.false_eq_true]
      omega

end Telemetry.Registry
