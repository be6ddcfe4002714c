import Telemetry.Proofs.Registry.Tasks
import Telemetry.Proofs.Startup.Phases

/-! Common tags from startup. Configurers that add common tags are done before the first binder,
and binders that add none leave them as they are. So a meter that any binder registers has the tags
it was asked for with, and of each other key what the last configurer says that names it. -/
namespace Telemetry

namespace Registry
variable {registry : Registry} {operation : Operation} {operations : List Operation}
  {registration : Registration} {name : String} {tags : Tags} {kind : MeterKind}
  {quantiles : List Binary64} {timer : Handle}

private theorem commonTags_afterAsking {new : Instrument → Prop}
    {answer : Except Error (Handle × Registry)}
    (granted : ∀ handle after, answer = .ok (handle, after) → Extends new registry after) :
    (registry.afterAsking answer).commonTags = registry.commonTags :=
  (afterAsking_extends granted).commonTags

theorem commonTags_perform (quiet : ∀ tags, operation ≠ .addCommonTags tags) :
    (registry.perform operation).commonTags = registry.commonTags := by
  cases operation with
  | counter name tags => exact commonTags_afterAsking fun _ _ => register_extends
  | gauge name tags source => exact commonTags_afterAsking fun _ _ => register_extends
  | timer name tags quantiles => exact commonTags_afterAsking fun _ _ => timer_extends
  | longTaskTimer name tags => exact commonTags_afterAsking fun _ _ => register_extends
  | addCommonTags tags => exact absurd rfl (quiet tags)
  | startTask timer => rw [perform_startTask]; rfl
  | _ => rfl

private theorem commonTags_run (quiet : ∀ tags, .addCommonTags tags ∉ operations) :
    (registry.run operations).commonTags = registry.commonTags := by
  induction operations generalizing registry with
  | nil => rfl
  | cons operation rest ih =>
    have first : (registry.perform operation).commonTags = registry.commonTags :=
      commonTags_perform fun tags same => quiet tags (same ▸ List.mem_cons_self)
    exact (ih fun tags member => quiet tags (List.mem_cons_of_mem _ member)).trans first

private theorem granted_id {answer : Except Error (Handle × Registry)}
    (member : registration ∈ registry.granted name tags kind answer) :
    registration.id = registry.effectiveId name tags := by
  cases answer with
  | error error => cases member
  | ok answer => rw [List.mem_singleton.mp member]

private theorem quantileRegistrations_id
    (member : registration ∈ quantileRegistrations timer name tags registry quantiles) :
    ∃ q, registration.id =
      registry.effectiveId (quantileGaugeName name) (quantileGaugeTags tags q) := by
  induction quantiles generalizing registry with
  | nil => cases member
  | cons q rest ih =>
    rcases List.mem_append.mp member with own | later
    · exact ⟨q, granted_id own⟩
    · obtain ⟨other, same⟩ := ih later
      rw [(publishQuantile_extends timer name tags registry q).effectiveId] at same
      exact ⟨other, same⟩

end Registry

namespace Startup
open Registry (Operation Registration quantileGaugeName quantileGaugeTags)

/-- A binder: what it does to the registry that it finds, and whether it fails after that. -/
structure Binding where
  operations : Registry → List Operation
  failure? : Registry → Option Error

/-- The step that a binder is at startup. -/
def Binding.attempt (binding : Binding) : Attempt Registry Unit := fun registry =>
  ((binding.failure? registry).elim (.ok ()) .error, registry.run (binding.operations registry))

/-- The startup whose configurers add the given tags, each its own. -/
def tagging (tagSets : List Tags) (bindings : List Binding) : Startup Registry :=
  ⟨tagSets.map Telemetry.commonTags, bindings.map Binding.attempt⟩

/-- No binder of a list adds common tags, whatever registry it finds. -/
def Quiet (bindings : List Binding) : Prop :=
  ∀ binding ∈ bindings, ∀ registry tags, .addCommonTags tags ∉ binding.operations registry

/-- An operation asks for a meter by a name and tags. Who asks for a timer asks for the gauges of
its quantiles as well. -/
inductive Asks : Operation → String → Tags → Prop where
  | counter : Asks (.counter name tags) name tags
  | gauge : Asks (.gauge name tags source) name tags
  | timer : Asks (.timer name tags quantiles) name tags
  | longTaskTimer : Asks (.longTaskTimer name tags) name tags
  | quantileGauge (q : Binary64) :
      Asks (.timer name tags quantiles) (quantileGaugeName name) (quantileGaugeTags tags q)

/-- During a startup one of its binders gets a meter that it asks for. What comes before that binder
has passed by then, and some of its own operations are done. -/
inductive Binds (tagSets : List Tags) (bindings : List Binding) (registry : Registry)
    (operation : Operation) (registration : Registration) : Prop where
  | intro (order : bindings = earlier ++ binding :: later)
      (configures : Passes (tagSets.map Telemetry.commonTags) registry configured)
      (passed : Passes (earlier.map Binding.attempt) configured found)
      (progress : binding.operations found = before ++ operation :: after)
      (member : registration ∈ (found.run before).registrationsOf operation) :
      Binds tagSets bindings registry operation registration

/-- The last of some tag sets that names a key gives it a value. -/
def LastSays (tagSets : List Tags) (key value : String) : Prop :=
  ∃ front tags back, tagSets = front ++ tags :: back ∧ tags.get? key = some value ∧
    ∀ other ∈ back, other.get? key = none

/-- How the id should be of a meter that was asked for by a name and tags of its own, when some tag
sets were made common. -/
structure Carries (id : MeterId) (name : String) (own : Tags) (tagSets : List Tags) : Prop where
  named : id.name = name
  keeps : ∀ key value, own.get? key = some value → id.tags.get? key = some value
  adds : ∀ key value, own.get? key = none → LastSays tagSets key value →
    id.tags.get? key = some value

variable {registry found after : Registry} {operation : Operation} {registration : Registration}
  {key value : String} {tagSets : List Tags} {binding : Binding} {bindings : List Binding}

/-! ## The common tags of a registry -/

/-- Tag sets that do not name a key let its common value be. -/
private theorem get?_commonTags_of_unsaid (unsaid : ∀ tags ∈ tagSets, tags.get? key = none) :
    (registry.run (tagSets.map .addCommonTags)).commonTags.get? key =
      registry.commonTags.get? key := by
  induction tagSets generalizing registry with
  | nil => rfl
  | cons tags rest ih =>
    obtain ⟨unsaidHere, unsaidLater⟩ := List.forall_mem_cons.mp unsaid
    have first : (registry.addCommonTags tags).commonTags.get? key =
        registry.commonTags.get? key := by
      rw [Registry.addCommonTags, Tags.get?_merge, unsaidHere, Option.none_or]
    exact (ih unsaidLater).trans first

private theorem get?_commonTags_of_lastSays (told : LastSays tagSets key value) :
    (registry.run (tagSets.map .addCommonTags)).commonTags.get? key = some value := by
  obtain ⟨front, tags, back, rfl, said, unsaid⟩ := told
  rw [List.map_append, Registry.run_append]
  refine (get?_commonTags_of_unsaid unsaid).trans ?_
  rw [Registry.perform, Registry.addCommonTags, Tags.get?_merge, said, Option.some_or]

/-! ## The ids of registrations -/

/-- A registration has the effective id of a name and tags that were asked for. -/
private theorem registrationsOf_asks (member : registration ∈ registry.registrationsOf operation) :
    ∃ name own, Asks operation name own ∧ registration.id = registry.effectiveId name own := by
  cases operation with
  | counter name tags => exact ⟨name, tags, .counter, Registry.granted_id member⟩
  | gauge name tags source => exact ⟨name, tags, .gauge, Registry.granted_id member⟩
  | longTaskTimer name tags => exact ⟨name, tags, .longTaskTimer, Registry.granted_id member⟩
  | timer name tags quantiles =>
    rcases List.mem_append.mp member with own | gauge
    · exact ⟨name, tags, .timer, Registry.granted_id own⟩
    · cases asked : registry.register name tags (.timer (.new quantiles)) with
      | error error =>
        rw [asked] at gauge
        cases gauge
      | ok answer =>
        rw [asked] at gauge
        obtain ⟨q, same⟩ := Registry.quantileRegistrations_id gauge
        rw [(Registry.register_extends asked).effectiveId] at same
        exact ⟨_, _, .quantileGauge q, same⟩
  | _ => cases member

private theorem effectiveId_carries
    (common : ∀ key value, LastSays tagSets key value →
      registry.commonTags.get? key = some value) (name : String) (own : Tags) :
    Carries (registry.effectiveId name own) name own tagSets where
  named := rfl
  keeps key value said := by rw [Registry.effectiveId, Tags.get?_merge, said, Option.some_or]
  adds key value unsaid told := by
    rw [Registry.effectiveId, Tags.get?_merge, unsaid, Option.none_or, common key value told]

/-! ## What the steps do to the registry -/

private theorem passes_commonTags
    (passes : Passes (tagSets.map Telemetry.commonTags) registry after) :
    after = registry.run (tagSets.map .addCommonTags) := by
  induction tagSets generalizing registry with
  | nil =>
    cases passes
    rfl
  | cons tags rest ih =>
    obtain _ | ⟨success, more⟩ := passes
    cases success
    exact ih more

private theorem passes_bindings (quiet : Quiet bindings)
    (passes : Passes (bindings.map Binding.attempt) registry after) :
    ∃ operations, (∀ tags, .addCommonTags tags ∉ operations) ∧ after = registry.run operations := by
  induction bindings generalizing registry with
  | nil =>
    cases passes
    exact ⟨[], fun _ => List.not_mem_nil, rfl⟩
  | cons binding rest ih =>
    obtain ⟨quietHere, quietLater⟩ := List.forall_mem_cons.mp quiet
    obtain _ | ⟨success, more⟩ := passes
    obtain ⟨operations, none, rfl⟩ := ih quietLater more
    obtain ⟨-, rfl⟩ := Prod.mk.inj success
    refine ⟨binding.operations registry ++ operations, fun tags member => ?_, ?_⟩
    · exact (List.mem_append.mp member).elim (quietHere registry tags) (none tags)
    · rw [Registry.run_append]

/-- A binder whose turn has come does all that it does, and what comes after it is a run. -/
theorem runPhase_binding (phase : StartupPhase) (first : Nat) (binding : Binding)
    (later : List Binding) (registry : Registry) :
    ∃ more, (runPhase phase first ((binding :: later).map Binding.attempt) registry).2 =
      registry.run (binding.operations registry ++ more) := by
  -- The next binder finds what this one left, so the registry is any.
  induction later generalizing first binding registry with
  | nil =>
    refine ⟨[], ?_⟩
    cases failure : binding.failure? registry <;> simp [runPhase, Binding.attempt, failure]
  | cons next rest ih =>
    rw [List.map_cons, runPhase]
    cases failure : binding.failure? registry with
    | some error => exact ⟨[], by simp [Binding.attempt, failure]⟩
    | none =>
      obtain ⟨more, run⟩ := ih (first + 1) next (registry.run (binding.operations registry))
      refine ⟨next.operations (registry.run (binding.operations registry)) ++ more, ?_⟩
      simp only [Binding.attempt, failure, Option.elim_none, run, Registry.run_append]

/-- What a binder has done by some moment is done in the registry that startup leaves. -/
theorem run_tagging {configured : Registry} {earlier later : List Binding}
    {done rest : List Operation}
    (configures : Passes (tagSets.map Telemetry.commonTags) registry configured)
    (passed : Passes (earlier.map Binding.attempt) configured found)
    (progress : binding.operations found = done ++ rest) :
    ∃ more, ((tagging tagSets (earlier ++ binding :: later)).run registry).2 =
      (found.run done).run more := by
  obtain ⟨more, run⟩ :=
    runPhase_binding .bind (0 + (earlier.map Binding.attempt).length) binding later found
  refine ⟨rest ++ more, ?_⟩
  rw [Startup.run, tagging, runPhase_of_passes configures]
  simp only [List.map_append, runPhase_append passed, run, progress, List.append_assoc,
    Registry.run_append]

/-- A meter that a binder gets has all the tags that it should have when startup has ended. -/
theorem Binds.carries (indexed : registry.WellIndexed) (quiet : Quiet bindings)
    (binds : Binds tagSets bindings registry operation registration) :
    ∃ name own meter, Asks operation name own ∧
      ((tagging tagSets bindings).run registry).2.meter? registration.handle = some meter ∧
      Carries meter.id name own tagSets := by
  obtain @⟨earlier, binding, later, configured, found, before, after,
    rfl, configures, passed, progress, member⟩ := binds
  obtain ⟨quietEarlier, quietRest⟩ := List.forall_mem_append.mp quiet
  have quietBefore (tags : Tags) : .addCommonTags tags ∉ before := fun member =>
    quietRest binding List.mem_cons_self found tags (progress ▸ List.mem_append_left _ member)
  have configuredShape := passes_commonTags configures
  obtain ⟨operations, quietPassed, foundShape⟩ := passes_bindings quietEarlier passed
  have common (key value : String) (told : LastSays tagSets key value) :
      (found.run before).commonTags.get? key = some value := by
    rw [Registry.commonTags_run quietBefore, foundShape, Registry.commonTags_run quietPassed,
      configuredShape, get?_commonTags_of_lastSays told]
  have foundIndexed : found.WellIndexed := by
    rw [foundShape, configuredShape]
    exact (Registry.run_keeps (Registry.run_keeps indexed _).1 operations).1
  have beforeIndexed : (found.run before).WellIndexed := (Registry.run_keeps foundIndexed before).1
  -- The meter is there as soon as the operation is done, and no later one takes its id away.
  obtain ⟨more, run⟩ := run_tagging configures passed (progress.trans (List.append_cons _ _ _))
  obtain ⟨-, meter, held, sameId, -⟩ := Registry.registrationsOf_hold beforeIndexed operation member
  obtain ⟨later, heldLater, laterId, -⟩ :=
    (Registry.run_keeps (Registry.perform_keeps beforeIndexed operation).1 more).2 _ meter held
  obtain ⟨name, own, asks, effective⟩ := registrationsOf_asks member
  refine ⟨name, own, later, asks, ?_, ?_⟩
  · rw [run, Registry.run_append]
    exact heldLater
  · rw [laterId, sameId, effective]
    exact effectiveId_carries common name own

/-- **Startup runs in order.** However a startup is put together, each phase has the steps that the
calls amount to, in the order in which they were added. It succeeds, and leaves what all configurers
and then all binders leave, exactly if each of them succeeds on what those before it left; otherwise
it ends with the first that fails, leaves what that one left, and names its phase, its place there
and its error. So if the configurers add common tags and no binder does, each meter that a binder
gets has the tags it was asked for with, and for every other key that is configured the value of the
last configurer which names it. -/
theorem startup_runs_in_order {σ : Type} (calls : List (Call σ)) (before : σ) :
    let startup := ofCalls calls
    (∀ phase, Amounts phase calls (startup.stepsOf phase)) ∧
    (∀ after, startup.run before = (.ok (), after) ↔
      Passes (startup.configurers ++ startup.binders) before after) ∧
    (∀ error after, startup.run before = (.error error, after) ↔
      Stops startup before error after) ∧
    ∀ clock commonTags history tagSets bindings, Quiet bindings →
      let registry := (Registry.new clock commonTags).run history
      ∀ operation registration, Binds tagSets bindings registry operation registration →
        ∃ name own meter, Asks operation name own ∧
          ((tagging tagSets bindings).run registry).2.meter? registration.handle = some meter ∧
          Carries meter.id name own tagSets := by
  intro startup
  refine ⟨fun phase => amounts_stepsOf phase calls, fun after => run_eq_ok_iff,
    fun error after => run_eq_error_iff, ?_⟩
  intro clock commonTags history tagSets bindings quiet registry operation registration binds
  exact binds.carries (Registry.history_wellIndexed clock commonTags history) quiet

/-- Two configurers speak of the environment, and the later one is heard; of the zone the binder has
its own word. That the next binder fails takes nothing back. -/
theorem jobs_are_tagged_by_the_last_configurer :
    let tagSets : List Tags :=
      [.ofList [("env", "dev"), ("zone", "a")], .ofList [("env", "live")]]
    let jobs : Binding := ⟨fun _ => [.counter "jobs" (.ofList [("zone", "b")])], fun _ => none⟩
    let broken : Binding := ⟨fun _ => [], fun _ => some (.invalidName " ")⟩
    let registry := (Registry.new ⟨0, 0⟩ .empty).run []
    let after := ((tagging tagSets [jobs, broken]).run registry).2
    Quiet [jobs, broken] ∧ ∃ meter, after.meter? ⟨0⟩ = some meter ∧
      meter.id.tags.get? "env" = some "live" ∧ meter.id.tags.get? "zone" = some "b" := by
  intro tagSets jobs broken registry after
  have quiet : Quiet [jobs, broken] := by simp [Quiet, jobs, broken]
  have binds : Binds tagSets [jobs, broken] registry
      (.counter "jobs" (.ofList [("zone", "b")]))
      ⟨⟨"jobs", .ofList [("env", "live"), ("zone", "b")]⟩, .counter, ⟨0⟩⟩ :=
    .intro (show _ = [] ++ jobs :: [broken] from rfl) (.cons rfl (.cons rfl (.nil _))) (.nil _)
      (show _ = [] ++ _ :: [] from rfl) (by decide +kernel)
  obtain ⟨name, own, meter, ⟨⟩, held, carries⟩ :=
    (startup_runs_in_order [] ()).2.2.2 ⟨0, 0⟩ .empty [] tagSets [jobs, broken] quiet _ _ binds
  refine ⟨quiet, meter, held, ?_, carries.keeps "zone" "b" (by decide +kernel)⟩
  exact carries.adds "env" "live" (by decide +kernel)
    ⟨[_], _, [], rfl, by decide +kernel, List.forall_mem_nil _⟩

end Startup
end Telemetry
