import Telemetry.Proofs.Registry.Tasks

/-! The accounts of one long-task timer. Every sample that the timer gave out is written down with the
reading at its start and with what became of it; nothing of this is seen by the timer, whose own list
of running tasks turns out to be the samples that are still held, in the order of their starts. -/
namespace Telemetry.Registry

/-- What became of a sample. Stopping takes it from its holder, and so does dropping it. -/
inductive Fate where
  | held
  | stopped
  | dropped
deriving DecidableEq

/-- A sample that was given out, and when. -/
structure Ticket where
  sample : Sample
  start : UInt64
  fate : Fate := .held

/-- A registry in use, with all samples that the timer gave out from some moment on. -/
structure Watch where
  registry : Registry
  tickets : List Ticket := []

/-- What happens to a long-task timer, and what else goes on in the registry in between. -/
inductive Event where
  | start
  | stop (sample : Sample)
  | drop (sample : Sample)
  | meanwhile (operation : Operation)
deriving DecidableEq

/-- Whether an operation neither starts nor stops tasks of a timer. -/
def Operation.Spares (timer : Handle) : Operation → Prop
  | .startTask other => other ≠ timer
  | .stopTask sample => sample.timer ≠ timer
  | _ => True

/-- What a meter shows. -/
def reading? (registry : Registry) (handle : Handle) : Option Value :=
  (registry.meter? handle).map registry.valueOf

namespace Watch
variable {watch : Watch} {timer : Handle} {tasks : LongTasks} {sample : Sample} {fate : Fate}
  {ticket : Ticket} {event : Event}

/-- The samples that somebody still holds. -/
def held (watch : Watch) : List Ticket := watch.tickets.filter (·.fate = .held)

/-- Takes a sample from its holder, if it has one. What was stopped before and is dropped then, as
everything is in the end, is not stopped again. -/
def release (watch : Watch) (sample : Sample) (fate : Fate) : Watch :=
  if ∃ ticket ∈ watch.held, ticket.sample = sample then
    ⟨watch.registry.stopTask sample, watch.tickets.map fun ticket =>
      if ticket.sample = sample then { ticket with fate } else ticket⟩
  else watch

/-- Goes on with one event. -/
def step (timer : Handle) (watch : Watch) : Event → Watch
  | .start =>
    match watch.registry.startTask timer with
    | none => watch
    | some (sample, after) => ⟨after, watch.tickets ++ [⟨sample, watch.registry.clock.nanos, .held⟩]⟩
  | .stop sample => watch.release sample .stopped
  | .drop sample => watch.release sample .dropped
  | .meanwhile operation => { watch with registry := watch.registry.perform operation }

/-- Goes on with some events, one after the other. -/
def run (timer : Handle) (watch : Watch) (events : List Event) : Watch :=
  events.foldl (step timer) watch

/-- The tasks of the timer are what the tickets say: numbers were given out one by one, the running
tasks are the samples that are held, and each is found with the reading of its own start. -/
structure Follows (timer : Handle) (watch : Watch) (tasks : LongTasks) : Prop where
  watched : watch.registry.tasksOf? timer = some tasks
  numbered : tasks.Numbered
  samples : watch.tickets.map (·.sample) = (List.range tasks.next).map (⟨timer, ·⟩)
  running : tasks.running = watch.held.map fun ticket => (ticket.sample.task, ticket.start)
  found : ∀ ticket ∈ watch.tickets, tasks.startOf? ticket.sample.task =
    if ticket.fate = .held then some ticket.start else none

namespace Follows

theorem sample_bounds (follows : Follows timer watch tasks) (member : ticket ∈ watch.tickets) :
    ticket.sample.timer = timer ∧ ticket.sample.task < tasks.next := by
  have listed : ticket.sample ∈ watch.tickets.map (·.sample) := List.mem_map_of_mem member
  rw [follows.samples] at listed
  obtain ⟨task, inRange, same⟩ := List.mem_map.mp listed
  rw [← same]
  exact ⟨rfl, List.mem_range.mp inRange⟩

theorem samples_nodup (follows : Follows timer watch tasks) :
    (watch.tickets.map (·.sample)).Nodup := by
  rw [follows.samples]
  refine List.Pairwise.map _ (fun a b apart same => apart ?_) List.nodup_range
  cases same
  rfl

theorem start (follows : Follows timer watch tasks) :
    Follows timer (watch.step timer .start) (tasks.start watch.registry.clock.nanos) := by
  have after : (watch.registry.perform (.startTask timer)).tasksOf? timer = _ :=
    tasksOf?_perform follows.watched
  have started : watch.registry.startTask timer =
      some (⟨timer, tasks.next⟩, watch.registry.perform (.startTask timer)) := by
    have held : (watch.registry.meter? timer).bind Meter.tasks? = some tasks := follows.watched
    simp only [perform, startTask, held, Option.map_some, Option.getD_some]
  simp only [step, started]
  rw [Operation.onTasks, if_pos rfl] at after
  refine ⟨after, follows.numbered.start _, ?_, ?_, ?_⟩
  · rw [List.map_append, follows.samples]
    exact (List.range_succ ▸ List.map_append).symm
  · simp only [LongTasks.start, held, List.filter_append, List.map_append, follows.running]
    rfl
  · intro ticket member
    rw [follows.numbered.startOf?_start]
    rcases List.mem_append.mp member with old | new
    · have below := (follows.sample_bounds old).2
      rw [if_neg (Nat.ne_of_lt below)]
      exact follows.found ticket old
    · cases List.mem_singleton.mp new
      simp

/-- The samples that are held after a release are those that were, without the one released. -/
theorem held_of_ended (tickets : List Ticket) (sample : Sample) (ended : fate ≠ .held) :
    (tickets.map fun ticket => if ticket.sample = sample then { ticket with fate } else ticket).filter
        (·.fate = .held) =
      (tickets.filter (·.fate = .held)).filter (·.sample ≠ sample) := by
  induction tickets with
  | nil => rfl
  | cons ticket rest ih =>
    rw [List.map_cons, List.filter_cons, ih]
    by_cases same : ticket.sample = sample
    · by_cases held : ticket.fate = .held <;> simp [same, ended, held]
    · by_cases held : ticket.fate = .held <;> simp [same, held]

theorem release (follows : Follows timer watch tasks)
    (holds : ∃ ticket ∈ watch.held, ticket.sample = sample) (ended : fate ≠ .held) :
    Follows timer (watch.release sample fate) (tasks.stop sample.task) := by
  have ofTimer : sample.timer = timer := by
    obtain ⟨ticket, member, rfl⟩ := holds
    exact (follows.sample_bounds (List.mem_filter.mp member).1).1
  have after : (watch.registry.perform (.stopTask sample)).tasksOf? timer = _ :=
    tasksOf?_perform follows.watched
  rw [Operation.onTasks, if_pos ofTimer] at after
  have sameNumber (ticket) (member : ticket ∈ watch.tickets) :
      ticket.sample.task = sample.task ↔ ticket.sample = sample := by
    have own : ticket.sample.timer = sample.timer :=
      (follows.sample_bounds member).1.trans ofTimer.symm
    obtain ⟨⟨timer, task⟩, start, fate⟩ := ticket
    obtain ⟨other, number⟩ := sample
    cases own
    simp only [Sample.mk.injEq, true_and]
  simp only [Watch.release, if_pos holds]
  refine ⟨after, follows.numbered.stop _, ?_, ?_, ?_⟩
  · rw [List.map_map]
    refine Eq.trans (List.map_congr_left fun ticket _ => ?_) follows.samples
    simp only [Function.comp_apply]
    split <;> rfl
  · have kept := held_of_ended watch.tickets sample ended
    simp only [LongTasks.stop, held, kept, follows.running, List.filter_map]
    congr 1
    refine List.filter_congr fun ticket member => ?_
    have number := sameNumber ticket (List.mem_filter.mp member).1
    simp only [Function.comp_apply, ne_eq, number]
  · intro ticket member
    obtain ⟨old, memberOld, rfl⟩ := List.mem_map.mp member
    rw [LongTasks.startOf?_stop]
    by_cases same : old.sample = sample
    · simp [same, ended]
    · have number := mt (sameNumber old memberOld).mp same
      simp only [if_neg same, if_neg number]
      exact follows.found old memberOld

/-- What is done elsewhere leaves the accounts as they are. -/
theorem meanwhile (follows : Follows timer watch tasks) {operation : Operation}
    (elsewhere : operation.Spares timer) :
    Follows timer (watch.step timer (.meanwhile operation)) tasks := by
  have after : (watch.registry.perform operation).tasksOf? timer = _ :=
    tasksOf?_perform follows.watched
  have untouched : operation.onTasks watch.registry.clock.nanos timer tasks = tasks := by
    cases operation with
    | startTask other => exact if_neg elsewhere
    | stopTask sample => exact if_neg elsewhere
    | _ => rfl
  rw [untouched] at after
  exact ⟨after, follows.numbered, follows.samples, follows.running, follows.found⟩

theorem step (follows : Follows timer watch tasks)
    (elsewhere : ∀ operation, event = .meanwhile operation → operation.Spares timer) :
    ∃ later, Follows timer (watch.step timer event) later := by
  have released (sample : Sample) {fate : Fate} (ended : fate ≠ .held) :
      ∃ later, Follows timer (watch.release sample fate) later := by
    by_cases holds : ∃ ticket ∈ watch.held, ticket.sample = sample
    · exact ⟨_, follows.release holds ended⟩
    · rw [Watch.release, if_neg holds]
      exact ⟨tasks, follows⟩
  cases event with
  | start => exact ⟨_, follows.start⟩
  | stop sample => exact released sample nofun
  | drop sample => exact released sample nofun
  | meanwhile operation => exact ⟨tasks, follows.meanwhile (elsewhere operation rfl)⟩

theorem run (follows : Follows timer watch tasks) {events : List Event}
    (elsewhere : ∀ operation, .meanwhile operation ∈ events → operation.Spares timer) :
    ∃ later, Follows timer (watch.run timer events) later := by
  induction events generalizing watch tasks with
  | nil => exact ⟨tasks, follows⟩
  | cons event rest ih =>
    have elsewhereFirst (operation) (same : event = .meanwhile operation) :
        operation.Spares timer :=
      elsewhere operation (same ▸ List.mem_cons_self)
    obtain ⟨next, followsNext⟩ := follows.step elsewhereFirst
    exact ih followsNext fun operation member =>
      elsewhere operation (List.mem_cons_of_mem _ member)

/-- Each start gives out one sample, and nothing else does. -/
theorem tickets_step (follows : Follows timer watch tasks) (event : Event) :
    (watch.step timer event).tickets.length =
      watch.tickets.length + if event = .start then 1 else 0 := by
  have released (sample : Sample) (fate : Fate) :
      (watch.release sample fate).tickets.length = watch.tickets.length := by
    unfold Watch.release
    split
    · exact List.length_map _
    · rfl
  cases event with
  | start =>
    have samples := congrArg List.length follows.samples
    have samplesAfter := congrArg List.length follows.start.samples
    simp only [List.length_map, List.length_range, LongTasks.start] at samples samplesAfter
    rw [samplesAfter, samples, if_pos rfl]
  | stop sample => exact released sample _
  | drop sample => exact released sample _
  | meanwhile operation => rfl

theorem tickets_run (follows : Follows timer watch tasks) {events : List Event}
    (elsewhere : ∀ operation, .meanwhile operation ∈ events → operation.Spares timer) :
    (watch.run timer events).tickets.length = watch.tickets.length + events.count .start := by
  induction events generalizing watch tasks with
  | nil => rfl
  | cons event rest ih =>
    have elsewhereFirst (operation) (same : event = .meanwhile operation) :
        operation.Spares timer :=
      elsewhere operation (same ▸ List.mem_cons_self)
    obtain ⟨next, followsNext⟩ := follows.step elsewhereFirst
    have later := ih followsNext fun operation member =>
      elsewhere operation (List.mem_cons_of_mem _ member)
    have first := follows.tickets_step event
    rw [Watch.run, List.foldl_cons, ← Watch.run, later, first, List.count_cons]
    simp only [beq_iff_eq]
    omega

/-! ## What the accounts show -/

theorem reading (follows : Follows timer watch tasks) :
    watch.registry.reading? timer =
      some (.longTaskTimer tasks.active (tasks.duration watch.registry.clock)) := by
  obtain ⟨meter, held, isTasks⟩ := tasksOf?_eq_some_iff.mp follows.watched
  obtain ⟨id, instrument⟩ := meter
  cases instrument with
  | longTaskTimer own =>
    cases isTasks
    rw [reading?, held]
    rfl
  | _ => cases isTasks

theorem active (follows : Follows timer watch tasks) : tasks.active = watch.held.length := by
  rw [LongTasks.active, follows.running, List.length_map]

theorem duration (follows : Follows timer watch tasks) (clock : Clock) :
    tasks.duration clock = .sum (watch.held.map fun ticket => clock.since ticket.start) := by
  rw [LongTasks.duration, follows.running, List.map_map]
  rfl

theorem startOf? (follows : Follows timer watch tasks) (member : ticket ∈ watch.tickets) :
    watch.registry.startOf? ticket.sample =
      if ticket.fate = .held then some ticket.start else none := by
  rw [Registry.startOf?, (follows.sample_bounds member).1, follows.watched]
  exact follows.found ticket member

/-- A sample that is held has run since its own start, and when it is released one task less is shown
and its time less, while every other sample is where it was. -/
theorem released (follows : Follows timer watch tasks) (held : ticket ∈ watch.held) {fate : Fate}
    (ended : fate ≠ .held) :
    watch.registry.elapsed ticket.sample = watch.registry.clock.since ticket.start ∧
    (∃ active total,
      (watch.release ticket.sample fate).registry.reading? timer =
        some (.longTaskTimer active total) ∧
      active + 1 = watch.held.length ∧
      total.nanoseconds + (watch.registry.elapsed ticket.sample).nanoseconds =
        (tasks.duration watch.registry.clock).nanoseconds) ∧
    ∀ sample, (watch.release ticket.sample fate).registry.startOf? sample =
      if sample = ticket.sample then none else watch.registry.startOf? sample := by
  have holds : ∃ other ∈ watch.held, other.sample = ticket.sample := ⟨ticket, held, rfl⟩
  obtain ⟨member, isHeld⟩ := List.mem_filter.mp held
  have running : watch.registry.startOf? ticket.sample = some ticket.start := by
    rw [follows.startOf? member, if_pos (of_decide_eq_true isHeld)]
  have found : tasks.startOf? ticket.sample.task = some ticket.start := by
    rw [follows.found ticket member, if_pos (of_decide_eq_true isHeld)]
  have after : (watch.release ticket.sample fate).registry =
      watch.registry.stopTask ticket.sample := by
    rw [Watch.release, if_pos holds]
  have sameClock : (watch.release ticket.sample fate).registry.clock = watch.registry.clock := by
    rw [after]
    rfl
  have own : watch.registry.elapsed ticket.sample = watch.registry.clock.since ticket.start := by
    have found : ((watch.registry.meter? ticket.sample.timer).bind Meter.tasks?).bind
        (·.startOf? ticket.sample.task) = some ticket.start := running
    rw [elapsed, found]
  refine ⟨own, ⟨_, _, (follows.release holds ended).reading, ?_, ?_⟩, fun sample => ?_⟩
  · rw [← follows.active]
    exact follows.numbered.active_stop found
  · rw [sameClock, own]
    exact follows.numbered.duration_stop found _
  · rw [after]
    exact startOf?_stopTask _ _ _

/-- A sample that was released cannot be released again, and there is nothing left of it that could
be. -/
theorem gone (follows : Follows timer watch tasks) (member : ticket ∈ watch.tickets)
    (ended : ticket.fate ≠ .held) (fate : Fate) :
    watch.release ticket.sample fate = watch ∧
      watch.registry.stopTask ticket.sample = watch.registry := by
  have stopped : tasks.startOf? ticket.sample.task = none := by
    rw [follows.found ticket member, if_neg ended]
  constructor
  · have noneHeld : ¬ ∃ other ∈ watch.held, other.sample = ticket.sample := by
      rintro ⟨other, held, same⟩
      obtain ⟨memberOther, isHeld⟩ := List.mem_filter.mp held
      have running := follows.found other memberOther
      rw [if_pos (of_decide_eq_true isHeld), same, stopped] at running
      cases running
    exact if_neg noneHeld
  · refine modify_eq_self _ fun meter held => ?_
    obtain ⟨own, heldOwn, isTasks⟩ := tasksOf?_eq_some_iff.mp follows.watched
    rw [(follows.sample_bounds member).1, heldOwn] at held
    cases held
    obtain ⟨id, instrument⟩ := meter
    cases instrument with
    | longTaskTimer list =>
      cases isTasks
      simp only [Meter.mapTasks, LongTasks.stop_of_ended stopped]
    | _ => rfl

end Follows
end Watch

/-- **A long-task timer keeps exact accounts.** Take any timer that was not used before, and let tasks
be started, stopped and dropped on it in any order, while the clock moves, as it likes, and anything
else is done to the registry. Then there is one sample for each start, each another one; the timer
shows as many tasks as there are samples that were neither stopped nor dropped, and their times
together, each counted from its own start and not below zero. Stopping such a sample gives its own
time, and stopping or dropping it takes just that one out; what was stopped or dropped before is not
taken out again, and nothing is changed when it goes. -/
theorem long_task_accounting {registry : Registry} {timer : Handle}
    (unused : registry.tasksOf? timer = some .empty) {events : List Event}
    (elsewhere : ∀ operation, .meanwhile operation ∈ events → operation.Spares timer) :
    let watch := Watch.run timer ⟨registry, []⟩ events
    let total := Duration.sum (watch.held.map fun ticket => watch.registry.clock.since ticket.start)
    (watch.tickets.length = events.count .start ∧ (watch.tickets.map (·.sample)).Nodup) ∧
    watch.registry.reading? timer = some (.longTaskTimer watch.held.length total) ∧
    (∀ ticket ∈ watch.held, ∀ event, event = .stop ticket.sample ∨ event = .drop ticket.sample →
      watch.registry.elapsed ticket.sample = watch.registry.clock.since ticket.start ∧
      (∃ active left,
        (watch.step timer event).registry.reading? timer = some (.longTaskTimer active left) ∧
        active + 1 = watch.held.length ∧
        left.nanoseconds + (watch.registry.elapsed ticket.sample).nanoseconds =
          total.nanoseconds) ∧
      ∀ sample, (watch.step timer event).registry.startOf? sample =
        if sample = ticket.sample then none else watch.registry.startOf? sample) ∧
    ∀ ticket ∈ watch.tickets, ticket.fate ≠ .held →
      watch.step timer (.stop ticket.sample) = watch ∧
      watch.step timer (.drop ticket.sample) = watch ∧
      watch.registry.stopTask ticket.sample = watch.registry := by
  intro watch total
  have opened : Watch.Follows timer ⟨registry, []⟩ .empty :=
    ⟨unused, LongTasks.empty_numbered, rfl, rfl, List.forall_mem_nil _⟩
  have tickets := opened.tickets_run elsewhere
  obtain ⟨tasks, follows⟩ := opened.run elsewhere
  refine ⟨⟨tickets.trans (Nat.zero_add _), follows.samples_nodup⟩, ?_, ?_, ?_⟩
  · rw [follows.reading, follows.active, follows.duration]
  · intro ticket held event isRelease
    have released {fate : Fate} (ended : fate ≠ .held) := follows.released held ended
    rw [follows.duration] at released
    rcases isRelease with rfl | rfl
    · exact released nofun
    · exact released nofun
  · intro ticket member ended
    obtain ⟨stopped, same⟩ := follows.gone member ended .stopped
    exact ⟨stopped, (follows.gone member ended .dropped).1, same⟩

/-- Two imports, of which the first is stopped while the clock wraps. -/
theorem import_accounts :
    let registry := (Registry.new ⟨0, 0⟩ .empty).run [.longTaskTimer "import" .empty]
    let events : List Event := [.start, .meanwhile (.advance ⟨3⟩), .start,
      .meanwhile (.counter "rows" .empty), .stop ⟨⟨0⟩, 0⟩, .meanwhile (.advance ⟨2 ^ 64 - 2⟩),
      .drop ⟨⟨0⟩, 0⟩]
    let watch := Watch.run ⟨0⟩ ⟨registry, []⟩ events
    watch.registry.reading? ⟨0⟩ = some (.longTaskTimer watch.held.length
      (.sum (watch.held.map fun ticket => watch.registry.clock.since ticket.start))) ∧
    watch.held.map (fun ticket => watch.registry.clock.since ticket.start) = [⟨0⟩] := by
  intro registry events watch
  have unused : registry.tasksOf? ⟨0⟩ = some .empty := by decide +kernel
  have elsewhere (operation : Operation) (member : .meanwhile operation ∈ events) :
      operation.Spares ⟨0⟩ := by
    simp only [events, List.mem_cons, reduceCtorEq, Event.meanwhile.injEq, List.not_mem_nil,
      false_or, or_false] at member
    rcases member with rfl | rfl | rfl <;> trivial
  exact ⟨(long_task_accounting unused elsewhere).2.1, by decide +kernel⟩

end Telemetry.Registry
