import Telemetry.Meter.LongTasks

/-! The tasks of one long-task timer. Numbers are given out in ascending order and never again, so a
number finds the task that was started under it, and ending a task takes out that one only. -/
namespace Telemetry.LongTasks
variable {tasks : LongTasks} {task : Nat} {reading : UInt64}

/-- The running tasks are in the order of their numbers, and none has a number that is still to be
given out. -/
structure Numbered (tasks : LongTasks) : Prop where
  ascending : tasks.running.Pairwise fun a b => a.1 < b.1
  below : ∀ entry ∈ tasks.running, entry.1 < tasks.next

theorem empty_numbered : Numbered empty := ⟨.nil, nofun⟩

theorem Numbered.start (numbered : tasks.Numbered) (now : UInt64) :
    (tasks.start now).Numbered := by
  constructor
  · refine List.pairwise_append.mpr ⟨numbered.ascending, List.pairwise_singleton _ _, ?_⟩
    intro entry member new isNew
    cases List.mem_singleton.mp isNew
    exact numbered.below entry member
  · intro entry member
    rcases List.mem_append.mp member with old | new
    · exact Nat.lt_succ_of_lt (numbered.below entry old)
    · cases List.mem_singleton.mp new
      exact Nat.lt_succ_self _

theorem Numbered.stop (numbered : tasks.Numbered) (task : Nat) : (tasks.stop task).Numbered :=
  ⟨numbered.ascending.filter _, fun entry member =>
    numbered.below entry (List.mem_filter.mp member).1⟩

/-- A number that is still to be given out finds nothing. -/
theorem Numbered.startOf?_of_next_le (numbered : tasks.Numbered) (unused : tasks.next ≤ task) :
    tasks.startOf? task = none := by
  refine List.lookup_eq_none_iff.mpr fun entry member => ?_
  have bound := numbered.below entry member
  exact bne_iff_ne.mpr (by omega)

/-- A new task is found under the next number, and the others as before. -/
theorem Numbered.startOf?_start (numbered : tasks.Numbered) (now : UInt64) (task : Nat) :
    (tasks.start now).startOf? task =
      if task = tasks.next then some now else tasks.startOf? task := by
  simp only [LongTasks.start, startOf?, List.lookup_append]
  by_cases new : task = tasks.next
  · have unused := numbered.startOf?_of_next_le (Nat.le_of_eq new.symm)
    rw [startOf?] at unused
    rw [unused, new]
    simp
  · have apart : [(tasks.next, now)].lookup task = none :=
      List.lookup_eq_none_iff.mpr fun entry member => by
        cases List.mem_singleton.mp member
        exact bne_iff_ne.mpr new
    rw [apart, Option.or_none, if_neg new]

/-- An ended task is not found any more, and the others are as before. -/
theorem startOf?_stop (tasks : LongTasks) (ended task : Nat) :
    (tasks.stop ended).startOf? task = if task = ended then none else tasks.startOf? task := by
  simp only [stop, startOf?]
  induction tasks.running with
  | nil => simp
  | cons head rest ih =>
    by_cases taken : head.1 = ended
    · rw [List.filter_cons_of_neg (by simp [taken]), ih, List.lookup_cons]
      by_cases same : task = ended
      · simp [same]
      · simp [same, taken, beq_false_of_ne same]
    · rw [List.filter_cons_of_pos (by simp [taken]), List.lookup_cons, List.lookup_cons, ih]
      by_cases atHead : task = head.1
      · simp [atHead, taken]
      · simp [beq_false_of_ne atHead]

/-- Ending a task that is not running changes nothing. -/
theorem stop_of_ended (ended : tasks.startOf? task = none) : tasks.stop task = tasks := by
  have apart := List.lookup_eq_none_iff.mp ended
  have kept : tasks.running.filter (·.1 ≠ task) = tasks.running := by
    refine List.filter_eq_self.mpr fun entry member => ?_
    have := bne_iff_ne.mp (apart entry member)
    exact decide_eq_true (Ne.symm this)
  simp only [stop, kept]

/-- A running task stands in the list once, and ending it leaves what is before and behind it. -/
theorem Numbered.running_split (numbered : tasks.Numbered)
    (running : tasks.startOf? task = some reading) :
    ∃ before after, tasks.running = before ++ (task, reading) :: after ∧
      (tasks.stop task).running = before ++ after := by
  obtain ⟨before, after, shape, -⟩ := List.lookup_eq_some_iff.mp running
  have ascending := numbered.ascending
  rw [shape, List.pairwise_append, List.pairwise_cons] at ascending
  obtain ⟨-, ⟨later, -⟩, earlier⟩ := ascending
  refine ⟨before, after, shape, ?_⟩
  have keptBefore : before.filter (·.1 ≠ task) = before := by
    refine List.filter_eq_self.mpr fun entry member => ?_
    have := earlier entry member _ List.mem_cons_self
    exact decide_eq_true (by omega)
  have keptAfter : after.filter (·.1 ≠ task) = after := by
    refine List.filter_eq_self.mpr fun entry member => ?_
    have := later entry member
    exact decide_eq_true (by omega)
  rw [LongTasks.stop, shape, List.filter_append, keptBefore, List.filter_cons_of_neg (by simp), keptAfter]

/-- Ending a running task makes one task less. -/
theorem Numbered.active_stop (numbered : tasks.Numbered)
    (running : tasks.startOf? task = some reading) :
    (tasks.stop task).active + 1 = tasks.active := by
  obtain ⟨before, after, shape, left⟩ := numbered.running_split running
  simp only [active, left, shape, List.length_append, List.length_cons]
  omega

/-- Ending a running task takes its own time off the time of all. -/
theorem Numbered.duration_stop (numbered : tasks.Numbered)
    (running : tasks.startOf? task = some reading) (clock : Clock) :
    ((tasks.stop task).duration clock).nanoseconds + (clock.since reading).nanoseconds =
      (tasks.duration clock).nanoseconds := by
  obtain ⟨before, after, shape, left⟩ := numbered.running_split running
  simp only [duration, Duration.sum, left, shape, List.map_append, List.map_cons, List.sum_append,
    List.sum_cons]
  omega

end Telemetry.LongTasks
