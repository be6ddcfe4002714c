import Telemetry.Proofs.Meter.LongTasks
import Telemetry.Proofs.Registry.Growth

/-! Long-task timers while a registry is used. What an operation does to a meter that is there is said
once, in `Operation.onMeter`; from it follows that a sample which was given out runs until somebody
stops that very sample, and never again afterwards. -/
namespace Telemetry

namespace Meter

private theorem tasks?_increment (amount : UInt64) (meter : Meter) :
    (meter.increment amount).tasks? = meter.tasks? := by
  obtain ⟨id, instrument⟩ := meter
  cases instrument <;> rfl

theorem tasks?_record (duration : Duration) (meter : Meter) :
    (meter.record duration).tasks? = meter.tasks? := by
  obtain ⟨id, instrument⟩ := meter
  cases instrument <;> rfl

private theorem tasks?_mapTasks (change : LongTasks → LongTasks) (meter : Meter) :
    (meter.mapTasks change).tasks? = meter.tasks?.map change := by
  obtain ⟨id, instrument⟩ := meter
  cases instrument <;> rfl

/-- Changing the tasks of a meter that is no long-task timer changes nothing. -/
theorem mapTasks_of_kind {meter : Meter} (change : LongTasks → LongTasks)
    (other : meter.kind ≠ .longTaskTimer) : meter.mapTasks change = meter := by
  obtain ⟨id, instrument⟩ := meter
  cases instrument with
  | longTaskTimer tasks => exact absurd rfl other
  | _ => rfl

theorem exists_tasks?_of_kind {meter : Meter} (kind : meter.kind = .longTaskTimer) :
    ∃ tasks, meter.tasks? = some tasks := by
  obtain ⟨id, instrument⟩ := meter
  cases instrument with
  | longTaskTimer tasks => exact ⟨tasks, rfl⟩
  | _ => cases kind

end Meter

namespace Registry
variable {registry after : Registry} {handle timer : Handle} {meter : Meter} {tasks : LongTasks}
  {sample : Sample} {operation : Operation} {operations : List Operation} {reading : UInt64}

/-- An instrument as it is put behind a new meter. -/
inductive Fresh : Instrument → Prop where
  | counter : Fresh (.counter 0)
  | gauge (source : Source) : Fresh (.gauge source)
  | timer (quantiles : List Binary64) : Fresh (.timer (.new quantiles))
  | longTaskTimer : Fresh (.longTaskTimer .empty)

private theorem OfTimer.fresh {instrument : Instrument} (ofTimer : OfTimer instrument) :
    Fresh instrument := by
  cases ofTimer with
  | timer quantiles => exact .timer quantiles
  | quantileGauge timer q => exact .gauge _

/-- What an operation does to a meter that is there. -/
def Operation.onMeter (now : UInt64) (handle : Handle) (meter : Meter) : Operation → Meter
  | .increment target amount => if target = handle then meter.increment amount else meter
  | .record target duration => if target = handle then meter.record duration else meter
  | .startTask target => if target = handle then meter.mapTasks (·.start now) else meter
  | .stopTask sample => if sample.timer = handle then meter.mapTasks (·.stop sample.task) else meter
  | _ => meter

theorem meter?_modify (registry : Registry) (handle other : Handle) (change : Meter → Meter) :
    (registry.modify handle change).meter? other =
      (registry.meter? other).map fun meter => if handle = other then change meter else meter := by
  obtain ⟨index⟩ := handle
  obtain ⟨otherIndex⟩ := other
  simp only [Registry.meter?, modify, List.getElem?_modify, Handle.mk.injEq]
  rfl

/-- A change that leaves the one meter it is made to as it is changes nothing. -/
theorem modify_eq_self (handle : Handle) {change : Meter → Meter}
    (kept : ∀ meter, registry.meter? handle = some meter → change meter = meter) :
    registry.modify handle change = registry := by
  have same : registry.instances.modify handle.index change = registry.instances := by
    apply List.ext_getElem?
    intro index
    rw [List.getElem?_modify]
    by_cases here : handle.index = index
    · subst here
      cases held : registry.instances[handle.index]? with
      | none => rfl
      | some meter => simp [kept meter held]
    · simp [here]
  rw [modify, same]

/-- A change to the tasks of a meter is not seen at meters of other kinds. -/
theorem meter?_modify_mapTasks_iff (target : Handle) (change : LongTasks → LongTasks)
    (other : meter.kind ≠ .longTaskTimer) :
    (registry.modify target (Meter.mapTasks change)).meter? handle = some meter ↔
      registry.meter? handle = some meter := by
  rw [meter?_modify]
  constructor
  · intro held
    obtain ⟨old, heldOld, shape⟩ := Option.map_eq_some_iff.mp held
    split at shape
    · have kept := (mapTasks_keepsIdentity change old).2
      rw [shape] at kept
      rw [Meter.mapTasks_of_kind change (kept ▸ other)] at shape
      rw [heldOld, shape]
    · rw [heldOld, shape]
  · intro held
    rw [held, Option.map_some, Meter.mapTasks_of_kind change other, ite_self]

/-- Starting a task is a change of one meter, which is none if the meter is no long-task timer. -/
theorem perform_startTask (registry : Registry) (timer : Handle) :
    registry.perform (.startTask timer) =
      registry.modify timer (Meter.mapTasks (·.start registry.clock.nanos)) := by
  simp only [perform, startTask]
  cases found : (registry.meter? timer).bind Meter.tasks? with
  | some tasks => rfl
  | none =>
    change registry = _
    refine (modify_eq_self timer fun meter held => Meter.mapTasks_of_kind _ fun kind => ?_).symm
    obtain ⟨tasks, running⟩ := Meter.exists_tasks?_of_kind kind
    simp [held, running] at found

theorem afterAsking_extends {answer : Except Error (Handle × Registry)}
    {new : Instrument → Prop}
    (granted : ∀ handle after, answer = .ok (handle, after) → Extends new registry after) :
    Extends new registry (registry.afterAsking answer) := by
  cases answer with
  | error error => exact .refl _ _
  | ok answer => exact granted answer.1 answer.2 rfl

/-- A request adds at most fresh meters, and each other operation changes at most the state of the
meters that are there. -/
theorem perform_cases (registry : Registry) (operation : Operation) :
    (Extends Fresh registry (registry.perform operation) ∧
      ∀ now handle meter, operation.onMeter now handle meter = meter) ∨
    ∀ handle, (registry.perform operation).meter? handle =
      (registry.meter? handle).map (operation.onMeter registry.clock.nanos handle) := by
  have asking {name : String} {tags : Tags} {fresh : Instrument} (isFresh : Fresh fresh) :
      Extends Fresh registry (registry.afterAsking (registry.register name tags fresh)) :=
    afterAsking_extends fun handle after granted =>
      (register_extends granted).mono fun instrument same => same ▸ isFresh
  have unchanged (meter : Option Meter) : meter = meter.map fun meter => meter := by
    cases meter <;> rfl
  cases operation with
  | counter name tags => exact .inl ⟨asking .counter, fun _ _ _ => rfl⟩
  | gauge name tags source => exact .inl ⟨asking (.gauge source), fun _ _ _ => rfl⟩
  | longTaskTimer name tags => exact .inl ⟨asking .longTaskTimer, fun _ _ _ => rfl⟩
  | timer name tags quantiles =>
    refine .inl ⟨afterAsking_extends fun handle after granted => ?_, fun _ _ _ => rfl⟩
    exact (timer_extends granted).mono fun instrument => OfTimer.fresh
  | increment counter amount => exact .inr fun handle => meter?_modify _ _ _ _
  | record timer duration => exact .inr fun handle => meter?_modify _ _ _ _
  | startTask timer =>
    rw [perform_startTask]
    exact .inr fun handle => meter?_modify _ _ _ _
  | stopTask sample => exact .inr fun handle => meter?_modify _ _ _ _
  | addCommonTags tags => exact .inr fun handle => unchanged _
  | clear => exact .inr fun handle => unchanged _
  | advance amount => exact .inr fun handle => unchanged _
  | setProbe probe value => exact .inr fun handle => unchanged _

theorem meter?_perform (held : registry.meter? handle = some meter) :
    (registry.perform operation).meter? handle =
      some (operation.onMeter registry.clock.nanos handle meter) := by
  rcases registry.perform_cases operation with ⟨growth, same⟩ | changed
  · rw [same]
    exact growth.meter? held
  · rw [changed, held]
    rfl

theorem meter?_perform_cases (held : (registry.perform operation).meter? handle = some meter) :
    (∃ old, registry.meter? handle = some old ∧
      meter = operation.onMeter registry.clock.nanos handle old) ∨
    registry.meter? handle = none ∧ Fresh meter.instrument := by
  rcases registry.perform_cases operation with ⟨growth, same⟩ | changed
  · rcases growth.meter?_cases held with old | new
    · exact .inl ⟨meter, old, (same _ _ _).symm⟩
    · exact .inr new
  · rw [changed] at held
    obtain ⟨old, heldBefore, shape⟩ := Option.map_eq_some_iff.mp held
    exact .inl ⟨old, heldBefore, shape.symm⟩

/-! ## The tasks of a timer -/

/-- The tasks of a long-task timer. -/
def tasksOf? (registry : Registry) (timer : Handle) : Option LongTasks :=
  (registry.meter? timer).bind Meter.tasks?

/-- The reading at which the task of a sample was started, as long as the task is running. -/
def startOf? (registry : Registry) (sample : Sample) : Option UInt64 :=
  (registry.tasksOf? sample.timer).bind (·.startOf? sample.task)

/-- Whether a sample was given out, and its number so is not to be given out again. -/
def Issued (registry : Registry) (sample : Sample) : Prop :=
  ∃ tasks, registry.tasksOf? sample.timer = some tasks ∧ sample.task < tasks.next

/-- The tasks of each long-task timer are numbered. -/
def TasksNumbered (registry : Registry) : Prop :=
  ∀ timer tasks, registry.tasksOf? timer = some tasks → tasks.Numbered

/-- What an operation does to the tasks of a timer that is there. -/
def Operation.onTasks (now : UInt64) (timer : Handle) (tasks : LongTasks) : Operation → LongTasks
  | .startTask target => if target = timer then tasks.start now else tasks
  | .stopTask sample => if sample.timer = timer then tasks.stop sample.task else tasks
  | _ => tasks

private theorem tasks?_onMeter (now : UInt64) (handle : Handle) (meter : Meter)
    (operation : Operation) :
    (operation.onMeter now handle meter).tasks? =
      meter.tasks?.map fun tasks => operation.onTasks now handle tasks := by
  have unchanged : meter.tasks? = meter.tasks?.map fun tasks => tasks := by simp
  cases operation with
  | increment target amount =>
    simp only [Operation.onMeter, Operation.onTasks]
    split
    · rw [Meter.tasks?_increment]
      exact unchanged
    · exact unchanged
  | record target duration =>
    simp only [Operation.onMeter, Operation.onTasks]
    split
    · rw [Meter.tasks?_record]
      exact unchanged
    · exact unchanged
  | startTask target =>
    simp only [Operation.onMeter, Operation.onTasks]
    split
    · exact Meter.tasks?_mapTasks _ _
    · exact unchanged
  | stopTask sample =>
    simp only [Operation.onMeter, Operation.onTasks]
    split
    · exact Meter.tasks?_mapTasks _ _
    · exact unchanged
  | _ => exact unchanged

theorem tasksOf?_eq_some_iff : registry.tasksOf? timer = some tasks ↔
    ∃ meter, registry.meter? timer = some meter ∧ meter.tasks? = some tasks :=
  Option.bind_eq_some_iff

theorem tasksOf?_perform (held : registry.tasksOf? timer = some tasks) :
    (registry.perform operation).tasksOf? timer =
      some (operation.onTasks registry.clock.nanos timer tasks) := by
  obtain ⟨meter, heldMeter, isTasks⟩ := tasksOf?_eq_some_iff.mp held
  rw [tasksOf?, meter?_perform heldMeter, Option.bind_some, tasks?_onMeter, isTasks, Option.map_some]

private theorem tasksOf?_perform_cases
    (held : (registry.perform operation).tasksOf? timer = some tasks) :
    (∃ old, registry.tasksOf? timer = some old ∧
      tasks = operation.onTasks registry.clock.nanos timer old) ∨ tasks = .empty := by
  obtain ⟨meter, heldMeter, isTasks⟩ := tasksOf?_eq_some_iff.mp held
  rcases meter?_perform_cases heldMeter with ⟨old, heldOld, rfl⟩ | ⟨-, isFresh⟩
  · rw [tasks?_onMeter] at isTasks
    obtain ⟨oldTasks, isOld, shape⟩ := Option.map_eq_some_iff.mp isTasks
    exact .inl ⟨oldTasks, tasksOf?_eq_some_iff.mpr ⟨old, heldOld, isOld⟩, shape.symm⟩
  · obtain ⟨id, instrument⟩ := meter
    cases isFresh with
    | longTaskTimer =>
      cases isTasks
      exact .inr rfl
    | _ => cases isTasks

private theorem onTasks_numbered (numbered : tasks.Numbered) (operation : Operation) (now : UInt64)
    (timer : Handle) : (operation.onTasks now timer tasks).Numbered := by
  cases operation with
  | startTask target =>
    simp only [Operation.onTasks]
    split
    · exact numbered.start now
    · exact numbered
  | stopTask sample =>
    simp only [Operation.onTasks]
    split
    · exact numbered.stop sample.task
    · exact numbered
  | _ => exact numbered

theorem perform_tasksNumbered (numbered : registry.TasksNumbered) (operation : Operation) :
    (registry.perform operation).TasksNumbered := by
  intro timer tasks held
  rcases tasksOf?_perform_cases held with ⟨old, heldOld, rfl⟩ | rfl
  · exact onTasks_numbered (numbered timer old heldOld) operation _ timer
  · exact LongTasks.empty_numbered

theorem run_tasksNumbered (numbered : registry.TasksNumbered) (operations : List Operation) :
    (registry.run operations).TasksNumbered := by
  induction operations generalizing registry with
  | nil => exact numbered
  | cons operation rest ih => exact ih (perform_tasksNumbered numbered operation)

theorem history_tasksNumbered (clock : Clock) (commonTags : Tags) (history : List Operation) :
    ((Registry.new clock commonTags).run history).TasksNumbered := by
  refine run_tasksNumbered (fun timer tasks held => ?_) history
  cases held

/-! ## Samples -/

theorem Issued.perform (issued : registry.Issued sample) (operation : Operation) :
    (registry.perform operation).Issued sample := by
  obtain ⟨tasks, held, below⟩ := issued
  refine ⟨_, tasksOf?_perform held, Nat.lt_of_lt_of_le below ?_⟩
  cases operation with
  | startTask target =>
    simp only [Operation.onTasks]
    split
    · exact Nat.le_succ _
    · exact Nat.le_refl _
  | stopTask ended =>
    simp only [Operation.onTasks]
    split <;> exact Nat.le_refl _
  | _ => exact Nat.le_refl _

theorem Issued.run (issued : registry.Issued sample) (operations : List Operation) :
    (registry.run operations).Issued sample := by
  induction operations generalizing registry with
  | nil => exact issued
  | cons operation rest ih => exact ih (issued.perform operation)

theorem Issued.of_startOf? (numbered : registry.TasksNumbered)
    (running : registry.startOf? sample = some reading) : registry.Issued sample := by
  obtain ⟨tasks, held, found⟩ := Option.bind_eq_some_iff.mp running
  refine ⟨tasks, held, Nat.lt_of_not_le fun unused => ?_⟩
  rw [(numbered _ _ held).startOf?_of_next_le unused] at found
  cases found

/-- Stopping a sample is seen at that sample only. -/
theorem startOf?_stopTask (registry : Registry) (ended sample : Sample) :
    (registry.stopTask ended).startOf? sample =
      if sample = ended then none else registry.startOf? sample := by
  obtain ⟨timer, task⟩ := sample
  simp only [startOf?, tasksOf?, stopTask, meter?_modify]
  cases registry.meter? timer with
  | none => simp
  | some meter =>
    by_cases sameTimer : ended.timer = timer
    · simp only [Option.map_some, Option.bind_some, if_pos sameTimer, Meter.tasks?_mapTasks]
      cases meter.tasks? with
      | none => simp
      | some tasks =>
        simp only [Option.map_some, Option.bind_some, LongTasks.startOf?_stop]
        obtain ⟨endedTimer, endedTask⟩ := ended
        cases sameTimer
        simp only [Sample.mk.injEq, true_and]
    · have apart : (⟨timer, task⟩ : Sample) ≠ ended := by
        rintro rfl
        exact sameTimer rfl
      simp [sameTimer, apart]

/-- A sample that was given out is stopped by nothing but stopping it, and started by nothing. -/
private theorem startOf?_perform_of_issued (numbered : registry.TasksNumbered)
    (issued : registry.Issued sample) (operation : Operation) :
    (registry.perform operation).startOf? sample =
      if operation = .stopTask sample then none else registry.startOf? sample := by
  obtain ⟨tasks, held, below⟩ := issued
  rw [startOf?, tasksOf?_perform held, startOf?, held, Option.bind_some, Option.bind_some]
  cases operation with
  | startTask target =>
    simp only [Operation.onTasks, reduceCtorEq, if_false]
    split
    · rw [(numbered _ _ held).startOf?_start, if_neg (Nat.ne_of_lt below)]
    · rfl
  | stopTask ended =>
    obtain ⟨endedTimer, endedTask⟩ := ended
    obtain ⟨timer, task⟩ := sample
    simp only [Operation.onTasks, Operation.stopTask.injEq, Sample.mk.injEq]
    by_cases sameTimer : endedTimer = timer
    · simp only [sameTimer, if_true, true_and, LongTasks.startOf?_stop, eq_comm]
    · simp only [sameTimer, if_false, false_and]
  | _ => rfl

/-- Over a whole run, a sample that was given out runs on exactly if nobody stopped it. -/
theorem startOf?_run_of_issued (numbered : registry.TasksNumbered)
    (issued : registry.Issued sample) (operations : List Operation) :
    (registry.run operations).startOf? sample =
      if .stopTask sample ∈ operations then none else registry.startOf? sample := by
  induction operations generalizing registry with
  | nil => simp [run]
  | cons operation rest ih =>
    have step := startOf?_perform_of_issued numbered issued operation
    have later := ih (perform_tasksNumbered numbered operation) (issued.perform operation)
    rw [run, List.foldl_cons, ← run, later, step]
    by_cases stopped : operation = .stopTask sample
    · simp [stopped]
    · simp [stopped, Ne.symm stopped]

theorem startTask_eq_perform (started : registry.startTask timer = some (sample, after)) :
    after = registry.perform (.startTask timer) := by
  simp only [perform, started, Option.map_some, Option.getD_some]

/-- A task that is started has a sample that was not given out before, and runs from now on; the others
are where they were. -/
theorem startTask_issues (numbered : registry.TasksNumbered)
    (started : registry.startTask timer = some (sample, after)) :
    sample.timer = timer ∧ ¬ registry.Issued sample ∧ after.Issued sample ∧
      ∀ other, after.startOf? other =
        if other = sample then some registry.clock.nanos else registry.startOf? other := by
  have performed := startTask_eq_perform started
  unfold startTask at started
  cases held : (registry.meter? timer).bind Meter.tasks? with
  | none =>
    rw [held] at started
    cases started
  | some tasks =>
    rw [held] at started
    cases started
    have heldBefore : registry.tasksOf? timer = some tasks := held
    have heldAfter : (registry.perform (.startTask timer)).tasksOf? timer = _ :=
      tasksOf?_perform heldBefore
    rw [← performed, Operation.onTasks, if_pos rfl] at heldAfter
    refine ⟨rfl, ?_, ⟨_, heldAfter, Nat.lt_succ_self _⟩, fun other => ?_⟩
    · rintro ⟨own, heldOwn, below⟩
      rw [heldBefore] at heldOwn
      cases heldOwn
      exact Nat.lt_irrefl _ below
    · obtain ⟨otherTimer, task⟩ := other
      by_cases sameTimer : otherTimer = timer
      · subst sameTimer
        simp only [startOf?, heldAfter, heldBefore, Option.bind_some,
          (numbered _ _ held).startOf?_start, Sample.mk.injEq, true_and]
      · have apart : (⟨otherTimer, task⟩ : Sample) ≠ ⟨timer, tasks.next⟩ := by
          rintro same
          cases same
          exact sameTimer rfl
        rw [if_neg apart, startOf?, startOf?, tasksOf?, tasksOf?, meter?_modify]
        simp [Ne.symm sameTimer]

end Registry
end Telemetry
