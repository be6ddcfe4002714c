import Mathlib.Data.List.Basic
import Telemetry.Proofs.Server.Bracketing
import Telemetry.Proofs.Timed.Sparing
import Telemetry.Timed.Task

/-! Timing a piece of work. Its long tasks run from its beginning until it is finished or given up,
and each of its other timers gets one observation when it is finished. Descriptors without a name of
their own might as well not be there, and nothing else in the registry is touched. -/
namespace Telemetry
open Registry (Operation WellIndexed Confined Spares)
open Server (SetsTasks Observes Owns Releases)

/-- What a piece of work does with the registry, and what comes of it. -/
structure Work (α : Type) where
  operations : Registry → List Operation
  output : Registry → α

/-- Does the work. -/
def Work.perform {α : Type} (work : Work α) (registry : Registry) : α × Registry :=
  (work.output registry, registry.run (work.operations registry))

/-- Whether a descriptor has a name of its own. -/
def Timed.isDeclared (timed : Timed) : Bool :=
  match timed.name with
  | .declared _ => true
  | .serverRequests | .missing => false

/-! ## Descriptors without a name of their own -/

private theorem Timed.resolve?_of_not_declared {timed : Timed}
    (undeclared : timed.isDeclared = false) :
    timed.resolve? none = none := by
  obtain ⟨name, extraTags, longTask, quantiles⟩ := timed
  cases name with
  | declared name => cases undeclared
  | _ => rfl

private theorem Registry.startAll_declared (registry : Registry) (timings : List Timed) :
    registry.startAll none (timings.filter Timed.isDeclared) = registry.startAll none timings := by
  induction timings generalizing registry with
  | nil => rfl
  | cons timed rest ih =>
    cases declared : timed.isDeclared with
    | false =>
      rw [List.filter_cons_of_neg (by simp [declared]), ih, Registry.startAll,
        Timed.resolve?_of_not_declared declared]
      rfl
    | true =>
      rw [List.filter_cons_of_pos declared, Registry.startAll, Registry.startAll]
      simp only [ih]

private theorem Registry.recordAll_declared (registry : Registry) (tags : Tags) (duration : Duration)
    (timings : List Timed) :
    registry.recordAll none tags duration (timings.filter Timed.isDeclared) =
      registry.recordAll none tags duration timings := by
  induction timings generalizing registry with
  | nil => rfl
  | cons timed rest ih =>
    cases declared : timed.isDeclared with
    | false =>
      rw [List.filter_cons_of_neg (by simp [declared]), ih, Registry.recordAll, Registry.recordAll,
        List.foldl_cons, Timed.resolve?_of_not_declared declared]
    | true =>
      rw [List.filter_cons_of_pos declared, Registry.recordAll, Registry.recordAll,
        List.foldl_cons, List.foldl_cons]
      exact ih _

namespace TaskInProgress
variable {registry left : Registry}

/-- The timers on which the long tasks run. -/
def longTimers (task : TaskInProgress) : List Handle := task.samples.map (·.timer)

/-- The timers that the other descriptors lead to. -/
def shortTimers (timings : List Timed) (registry : Registry) : List Handle :=
  (Timed.shortTasks timings).filterMap (registry.heldFor? .timer none (·.extraTags))

private theorem begin_declared (registry : Registry) (timings : List Timed) :
    TaskInProgress.begin registry (timings.filter Timed.isDeclared) =
      TaskInProgress.begin registry timings := by
  have same : Timed.longTasks (timings.filter Timed.isDeclared) =
      (Timed.longTasks timings).filter Timed.isDeclared := List.filter_comm _ _ _
  rw [TaskInProgress.begin, TaskInProgress.begin, same, Registry.startAll_declared]

private theorem complete_declared (task : TaskInProgress) (timings : List Timed)
    (registry : Registry) :
    task.complete (timings.filter Timed.isDeclared) registry = task.complete timings registry := by
  have same : Timed.shortTasks (timings.filter Timed.isDeclared) =
      (Timed.shortTasks timings).filter Timed.isDeclared := List.filter_comm _ _ _
  rw [complete, complete, same, Registry.recordAll_declared]

private theorem timedTask_declared {α : Type} (timings : List Timed) (work : Registry → α × Registry)
    (registry : Registry) :
    timedTask (timings.filter Timed.isDeclared) work registry =
      timedTask timings work registry := by
  simp only [timedTask, begin_declared, complete_declared]

/-! ## Beginning and end -/

private theorem begin_eq (indexed : WellIndexed registry) (timings : List Timed) :
    TaskInProgress.begin registry timings =
      (⟨(registry.startAll none (Timed.longTasks timings)).1, registry.clock.nanos⟩,
        (registry.startAll none (Timed.longTasks timings)).2) := by
  have starts := Registry.startAll_starts none registry (Timed.longTasks timings)
  simp only [TaskInProgress.begin, (starts.continues indexed).clock]

theorem cancel_confined (indexed : WellIndexed left) (task : TaskInProgress) :
    Confined task.longTimers left (task.cancel left) :=
  Registry.stopAll_confined indexed fun _ member => List.mem_map_of_mem member

theorem complete_confined (indexed : WellIndexed left) (task : TaskInProgress)
    (timings : List Timed) :
    Confined (task.longTimers ++ shortTimers timings (task.complete timings left)) left
      (task.complete timings left) := by
  have ends : Confined (task.longTimers ++ shortTimers timings (task.complete timings left)) left
      (left.stopAll task.samples) := Registry.stopAll_confined indexed fun _ member =>
    List.mem_append_left _ (List.mem_map_of_mem member)
  have records := Registry.recordAll_records none .empty (left.clock.since task.start)
    (left.stopAll task.samples) (Timed.shortTasks timings)
  refine ends.trans (records.confined ends.continues.indexed fun timed member timer held => ?_)
  simp only [Tags.empty_merge] at held
  exact List.mem_append_right _ (List.mem_filterMap.mpr ⟨timed, member, held⟩)

/-- Completing a task ends its long tasks and then records the time that it took. -/
theorem complete_observes (indexed : WellIndexed left) (task : TaskInProgress)
    (timings : List Timed) :
    ∃ ended, SetsTasks left ended task.samples none ∧
      Observes ended (task.complete timings left) none .empty (left.clock.since task.start)
        (Timed.shortTasks timings) :=
  have ends := Server.stopAll_setsTasks indexed task.samples
  ⟨left.stopAll task.samples, ends, Server.recordAll_observes ends.continues.indexed _ _ _ _⟩

private theorem tasksOf?_complete (indexed : WellIndexed left) (task : TaskInProgress)
    (timings : List Timed) (timer : Handle) :
    (task.complete timings left).tasksOf? timer = (left.stopAll task.samples).tasksOf? timer :=
  Registry.tasksOf?_recordAll (Server.stopAll_setsTasks indexed task.samples).continues.indexed
    none .empty _ _ timer

end TaskInProgress

/-- **Timed tasks count once.** A piece of work gives what it gives, timed or not. Each descriptor
of its own name that counts running tasks and is granted its timer in its turn owns one task of it,
which runs from the beginning until the work is finished or given up, and is gone then for good.
When it is finished, and not when it is given up, each other descriptor of its own name that is
granted its timer adds one observation of the time between beginning and end. Descriptors without a
name of their own might as well be left out, and other than the timers that the descriptors lead to,
and the gauges of their quantiles, nothing in the registry shows anything else. -/
theorem timed_tasks_count_once {α : Type} (clock : Clock) (commonTags : Tags)
    (history : List Operation) (timings : List Timed) :
    let registry := (Registry.new clock commonTags).run history
    ∃ task begun, TaskInProgress.begin registry timings = (task, begun) ∧
    SetsTasks registry begun task.samples (some registry.clock.nanos) ∧
    Owns registry begun none (Timed.longTasks timings) task.samples ∧
    Spares task.longTimers registry begun ∧
    (∀ during : List Operation,
      let left := begun.run during
      SetsTasks left (task.cancel left) task.samples none ∧
      Spares task.longTimers left (task.cancel left) ∧
      ((∀ sample ∈ task.samples, .stopTask sample ∉ during) →
        Releases left (task.cancel left) task.samples registry.clock.nanos ∧
        Releases left (task.complete timings left) task.samples registry.clock.nanos)) ∧
    (∀ work : Work α,
      let left := begun.run (work.operations begun)
      let after := task.complete timings left
      timedTask timings work.perform registry = (work.output begun, after) ∧
      (∃ ended, SetsTasks left ended task.samples none ∧
        Observes ended after none .empty (left.clock.since registry.clock.nanos)
          (Timed.shortTasks timings)) ∧
      Spares (task.longTimers ++ TaskInProgress.shortTimers timings after) left after) ∧
    TaskInProgress.begin registry (timings.filter Timed.isDeclared) = (task, begun) ∧
    ∀ work : Work α, timedTask (timings.filter Timed.isDeclared) work.perform registry =
      timedTask timings work.perform registry := by
  intro registry
  have indexed : WellIndexed registry := Registry.history_wellIndexed clock commonTags history
  have numbered : registry.TasksNumbered := Registry.history_tasksNumbered clock commonTags history
  have opens := Server.startAll_setsTasks indexed numbered none (Timed.longTasks timings)
  have owns := Server.startAll_owns indexed numbered none (Timed.longTasks timings)
  have confined := Registry.startAll_confined indexed none (Timed.longTasks timings)
  have numberedBegun :=
    (Registry.startAll_starts none registry (Timed.longTasks timings)).tasksNumbered numbered
  have begins := TaskInProgress.begin_eq indexed timings
  refine ⟨_, _, begins, opens, owns, confined.spares, fun during => ?_, fun work => ?_,
    (TaskInProgress.begin_declared registry timings).trans begins,
    fun work => TaskInProgress.timedTask_declared timings work.perform registry⟩
  · intro left
    have indexedLeft : WellIndexed left := (Registry.run_keeps opens.continues.indexed during).1
    refine ⟨Server.stopAll_setsTasks indexedLeft _,
      (TaskInProgress.cancel_confined indexedLeft _).spares, fun owned => ?_⟩
    have numberedLeft := Registry.run_tasksNumbered numberedBegun during
    have running : ∀ sample ∈ (registry.startAll none (Timed.longTasks timings)).1,
        left.startOf? sample = some registry.clock.nanos := by
      intro sample own
      rw [Registry.startOf?_run_of_issued numberedBegun (owns.issued sample own) during,
        if_neg (owned sample own), opens.tasks, if_pos own]
    exact ⟨Server.releases_of_stopAll numberedLeft owns.distinct running fun _ => rfl,
      Server.releases_of_stopAll numberedLeft owns.distinct running
        (TaskInProgress.tasksOf?_complete indexedLeft _ timings)⟩
  · intro left after
    have indexedLeft : WellIndexed left := (Registry.run_keeps opens.continues.indexed _).1
    refine ⟨?_, TaskInProgress.complete_observes indexedLeft _ timings,
      (TaskInProgress.complete_confined indexedLeft _ timings).spares⟩
    rw [timedTask, begins]
    rfl

/-- Two tasks of one timer run while there are beeps; the name of a counter is of no use to a third,
and two of the descriptors have no name of their own. -/
def beeps : List Timed :=
  [{ Timed.named "long" with longTask := true }, .named "beeps", .unnamed, .serverRequests,
    { Timed.named "rows" with longTask := true }, { Timed.named "long" with longTask := true }]

/-- The work clears the registry, starts a task that it leaves running, and takes five nanoseconds.
-/
def beeping : Work Nat := ⟨fun _ => [.clear, .startTask ⟨1⟩, .advance ⟨5⟩], fun _ => 3⟩

theorem beeps_count_once :
    let registry := (Registry.new ⟨0, 0⟩ .empty).run [.counter "rows" .empty, .advance ⟨7⟩]
    ∃ task begun, TaskInProgress.begin registry beeps = (task, begun) ∧
      task.samples = [⟨⟨1⟩, 0⟩, ⟨⟨1⟩, 1⟩] ∧
      let left := begun.run (beeping.operations begun)
      (∀ sample ∈ task.samples, .stopTask sample ∉ beeping.operations begun) ∧
      Releases left (task.cancel left) task.samples 7 ∧
      Releases left (task.complete beeps left) task.samples 7 ∧
      timedTask beeps beeping.perform registry = (3, task.complete beeps left) := by
  intro registry
  obtain ⟨task, begun, begins, -, -, -, bracketed, timed, -⟩ := timed_tasks_count_once
    ⟨0, 0⟩ .empty [.counter "rows" .empty, .advance ⟨7⟩] beeps
  have now : registry.clock.nanos = 7 := by decide +kernel
  have samples : task.samples = [⟨⟨1⟩, 0⟩, ⟨⟨1⟩, 1⟩] := by
    rw [← show (TaskInProgress.begin registry beeps).1 = task from congrArg Prod.fst begins]
    decide +kernel
  have owned : ∀ sample ∈ task.samples, .stopTask sample ∉ beeping.operations begun := by
    simp [beeping]
  obtain ⟨cancelled, completed⟩ := (bracketed (beeping.operations begun)).2.2 owned
  rw [show _ = (7 : UInt64) from now] at cancelled completed
  exact ⟨task, begun, begins, samples, owned, cancelled, completed, (timed beeping).1⟩

end Telemetry
