import Telemetry.Startup.Basic

/-! Startup, step by step. However it was put together, each phase has its steps in the order in
which they were added. They are taken one after the other, the configurers first, and each finds
what the one before it left; the first that fails is the last that is taken. -/
namespace Telemetry.Startup

/-- A call to whoever puts a startup together: it adds one step to a phase, or replaces them all. -/
inductive Call (σ : Type) where
  | add (phase : StartupPhase) (step : Attempt σ Unit)
  | replace (phase : StartupPhase) (steps : Option (List (Attempt σ Unit)))

variable {σ : Type} {phase : StartupPhase} {calls : List (Call σ)}

/-- The startup after a call. -/
def called (startup : Startup σ) : Call σ → Startup σ
  | .add .configure step => startup.configurer step
  | .add .bind step => startup.binder step
  | .replace .configure steps => startup.withConfigurers steps
  | .replace .bind steps => startup.withBinders steps

/-- The startup that some calls put together. -/
def ofCalls (calls : List (Call σ)) : Startup σ := calls.foldl called {}

/-- The steps of a phase. -/
def stepsOf (startup : Startup σ) : StartupPhase → List (Attempt σ Unit)
  | .configure => startup.configurers
  | .bind => startup.binders

/-! ## Putting a startup together -/

namespace Call

/-- The step that a call adds to a phase. -/
def added? (phase : StartupPhase) : Call σ → Option (Attempt σ Unit)
  | .add other step => if other = phase then some step else none
  | .replace _ _ => none

/-- Whether a call replaces the steps of a phase. -/
def replaces (phase : StartupPhase) : Call σ → Bool
  | .add _ _ => false
  | .replace other _ => other = phase

end Call

/-- The steps that some calls amount to in a phase, in the order in which they were added; what was
there before the last replacement does not count. -/
inductive Amounts (phase : StartupPhase) : List (Call σ) → List (Attempt σ Unit) → Prop where
  | kept (calls : List (Call σ)) (kept : ∀ call ∈ calls, call.replaces phase = false) :
      Amounts phase calls (calls.filterMap (Call.added? phase))
  | replaced (earlier : List (Call σ)) (steps : Option (List (Attempt σ Unit)))
      (later : List (Call σ)) (kept : ∀ call ∈ later, call.replaces phase = false) :
      Amounts phase (earlier ++ .replace phase steps :: later)
        (steps.getD [] ++ later.filterMap (Call.added? phase))

private theorem stepsOf_called (startup : Startup σ) (call : Call σ) (phase : StartupPhase)
    (kept : call.replaces phase = false) :
    (startup.called call).stepsOf phase = startup.stepsOf phase ++ (call.added? phase).toList := by
  cases call with
  | add other step =>
    cases other <;> cases phase <;> simp [called, configurer, binder, stepsOf, Call.added?]
  | replace other steps =>
    cases other <;> cases phase <;>
      simp_all [called, withConfigurers, withBinders, stepsOf, Call.added?, Call.replaces]

private theorem stepsOf_foldl_called (startup : Startup σ)
    (kept : ∀ call ∈ calls, call.replaces phase = false) :
    (calls.foldl called startup).stepsOf phase =
      startup.stepsOf phase ++ calls.filterMap (Call.added? phase) := by
  induction calls generalizing startup with
  | nil => exact (List.append_nil _).symm
  | cons call rest ih =>
    obtain ⟨keptCall, keptRest⟩ := List.forall_mem_cons.mp kept
    rw [List.foldl_cons, ih _ keptRest, stepsOf_called startup call phase keptCall,
      List.append_assoc]
    cases added : call.added? phase <;> simp [added]

private theorem stepsOf_replaced (startup : Startup σ) (phase : StartupPhase)
    (steps : Option (List (Attempt σ Unit))) :
    (startup.called (.replace phase steps)).stepsOf phase = steps.getD [] := by
  cases phase <;> rfl

/-- Either no call replaces the steps of a phase, or there is a last one that does. -/
private theorem replaces_cases (phase : StartupPhase) (calls : List (Call σ)) :
    (∀ call ∈ calls, call.replaces phase = false) ∨
    ∃ earlier steps later, calls = earlier ++ .replace phase steps :: later ∧
      ∀ call ∈ later, call.replaces phase = false := by
  -- A replacement among the later calls is the last one; only without one does this call count.
  induction calls with
  | nil => exact .inl (List.forall_mem_nil _)
  | cons call rest ih =>
    rcases ih with kept | ⟨earlier, steps, later, rfl, kept⟩
    · cases replaces : call.replaces phase with
      | false => exact .inl (List.forall_mem_cons.mpr ⟨replaces, kept⟩)
      | true =>
        cases call with
        | add other step => cases replaces
        | replace other steps =>
          have same : other = phase := of_decide_eq_true replaces
          exact .inr ⟨[], steps, rest, by rw [same]; rfl, kept⟩
    · exact .inr ⟨call :: earlier, steps, later, rfl, kept⟩

theorem amounts_stepsOf (phase : StartupPhase) (calls : List (Call σ)) :
    Amounts phase calls ((ofCalls calls).stepsOf phase) := by
  rcases replaces_cases phase calls with kept | ⟨earlier, steps, later, rfl, kept⟩
  · have nothing : ({} : Startup σ).stepsOf phase = [] := by cases phase <;> rfl
    rw [ofCalls, stepsOf_foldl_called _ kept, nothing]
    exact .kept calls kept
  · rw [ofCalls, List.foldl_append, List.foldl_cons, stepsOf_foldl_called _ kept, stepsOf_replaced]
    exact .replaced earlier steps later kept

/-! ## Taking the steps -/

/-- Some steps, taken one after the other, all succeed. -/
inductive Passes : List (Attempt σ Unit) → σ → σ → Prop where
  | nil (state : σ) : Passes [] state state
  | cons (success : step before = (.ok (), middle)) (rest : Passes steps middle after) :
      Passes (step :: steps) before after

/-- Of some steps the one at a place is the first that fails, and leaves a state. -/
def FailsAt (steps : List (Attempt σ Unit)) (before : σ) (place : Nat) (cause : Error) (after : σ) :
    Prop :=
  ∃ passed step rest middle, steps = passed ++ step :: rest ∧ passed.length = place ∧
    Passes passed before middle ∧ step middle = (.error cause, after)

/-- What a startup fails with, and what it leaves: one configurer is the first that fails, or all of
them pass and one binder is. -/
inductive Stops (startup : Startup σ) (before : σ) : Error → σ → Prop where
  | configuring (fails : FailsAt startup.configurers before place cause after) :
      Stops startup before (.startup .configure place cause) after
  | binding (configures : Passes startup.configurers before middle)
      (fails : FailsAt startup.binders middle place cause after) :
      Stops startup before (.startup .bind place cause) after

variable {startup : Startup σ} {passed rest all : List (Attempt σ Unit)}
  {before middle after : σ} {error : Error}

theorem passes_append_iff :
    Passes (passed ++ rest) before after ↔
      ∃ middle, Passes passed before middle ∧ Passes rest middle after := by
  induction passed generalizing before with
  | nil =>
    constructor
    · exact fun passes => ⟨before, .nil before, passes⟩
    · rintro ⟨_, ⟨⟩, passes⟩
      exact passes
  | cons step passed ih =>
    constructor
    · rintro (_ | ⟨success, more⟩)
      obtain ⟨middle, first, last⟩ := ih.mp more
      exact ⟨middle, .cons success first, last⟩
    · rintro ⟨middle, _ | ⟨success, first⟩, last⟩
      exact .cons success (ih.mpr ⟨middle, first, last⟩)

/-- Steps that pass hand on to the rest. -/
theorem runPhase_append (passes : Passes passed before middle) (phase : StartupPhase) (first : Nat)
    (rest : List (Attempt σ Unit)) :
    runPhase phase first (passed ++ rest) before =
      runPhase phase (first + passed.length) rest middle := by
  induction passes generalizing first with
  | nil state => rfl
  | cons success more ih =>
    rw [List.cons_append, runPhase, success, List.length_cons, ← Nat.add_assoc, Nat.add_right_comm]
    exact ih (first + 1)

/-- Taking the steps of a phase comes to an end with all of them, or at the first that fails. -/
theorem passes_or_fails (steps : List (Attempt σ Unit)) (before : σ) :
    (∃ after, Passes steps before after) ∨
    ∃ place cause after, FailsAt steps before place cause after := by
  induction steps generalizing before with
  | nil => exact .inl ⟨before, .nil before⟩
  | cons step rest ih =>
    rcases taken : step before with ⟨_ | ⟨⟩, middle⟩
    · exact .inr ⟨0, _, middle, [], step, rest, before, rfl, rfl, .nil before, taken⟩
    · rcases ih middle with ⟨after, passes⟩ |
        ⟨place, cause, after, passed, failing, more, last, rfl, count, passes, failure⟩
      · exact .inl ⟨after, .cons taken passes⟩
      · exact .inr ⟨place + 1, cause, after, step :: passed, failing, more, last, rfl,
          by rw [List.length_cons, count], .cons taken passes, failure⟩

theorem runPhase_of_passes (passes : Passes all before after) (phase : StartupPhase) (first : Nat) :
    runPhase phase first all before = (.ok (), after) := by
  have run := runPhase_append passes phase first []
  rwa [List.append_nil] at run

private theorem runPhase_of_failsAt {place : Nat} {cause : Error}
    (fails : FailsAt all before place cause after) (phase : StartupPhase) (first : Nat) :
    runPhase phase first all before = (.error (.startup phase (first + place) cause), after) := by
  obtain ⟨passed, step, rest, middle, rfl, rfl, passes, failure⟩ := fails
  rw [runPhase_append passes, runPhase, failure]

theorem runPhase_eq_ok_iff {first : Nat} :
    runPhase phase first all before = (.ok (), after) ↔ Passes all before after := by
  refine ⟨fun run => ?_, fun passes => runPhase_of_passes passes phase first⟩
  rcases passes_or_fails all before with ⟨_, passes⟩ | ⟨_, _, _, fails⟩
  · rw [runPhase_of_passes passes] at run
    cases run
    exact passes
  · rw [runPhase_of_failsAt fails] at run
    cases run

theorem runPhase_eq_error_iff {first : Nat} :
    runPhase phase first all before = (.error error, after) ↔
      ∃ place cause, FailsAt all before place cause after ∧
        error = .startup phase (first + place) cause := by
  constructor
  · intro run
    rcases passes_or_fails all before with ⟨_, passes⟩ | ⟨_, _, _, fails⟩
    · rw [runPhase_of_passes passes] at run
      cases run
    · rw [runPhase_of_failsAt fails] at run
      cases run
      exact ⟨_, _, fails, rfl⟩
  · rintro ⟨place, cause, fails, rfl⟩
    exact runPhase_of_failsAt fails phase first

theorem run_eq_ok_iff :
    startup.run before = (.ok (), after) ↔
      Passes (startup.configurers ++ startup.binders) before after := by
  rw [run, passes_append_iff]
  constructor
  · intro run
    rcases configures : runPhase .configure 0 startup.configurers before with ⟨_ | ⟨⟩, middle⟩
    · rw [configures] at run
      cases run
    · rw [configures] at run
      exact ⟨middle, runPhase_eq_ok_iff.mp configures, runPhase_eq_ok_iff.mp run⟩
  · rintro ⟨middle, configures, binds⟩
    rw [runPhase_of_passes configures]
    exact runPhase_of_passes binds .bind 0

theorem run_eq_error_iff :
    startup.run before = (.error error, after) ↔ Stops startup before error after := by
  rw [run]
  constructor
  · intro run
    rcases configures : runPhase .configure 0 startup.configurers before with ⟨failure | ⟨⟩, middle⟩
    · rw [configures] at run
      cases run
      obtain ⟨place, cause, fails, rfl⟩ := runPhase_eq_error_iff.mp configures
      rw [Nat.zero_add]
      exact .configuring fails
    · rw [configures] at run
      obtain ⟨place, cause, fails, rfl⟩ := runPhase_eq_error_iff.mp run
      rw [Nat.zero_add]
      exact .binding (runPhase_eq_ok_iff.mp configures) fails
  · rintro (fails | ⟨configures, fails⟩)
    · rw [runPhase_of_failsAt fails, Nat.zero_add]
    · rw [runPhase_of_passes configures]
      have run := runPhase_of_failsAt fails .bind 0
      rwa [Nat.zero_add] at run

end Telemetry.Startup
