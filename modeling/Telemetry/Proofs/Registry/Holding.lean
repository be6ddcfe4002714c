import Telemetry.Proofs.Registry.Registration
import Telemetry.Proofs.Registry.Tasks

/-! Whether a request was granted, read off a later registry. While nobody clears the registry or
changes the common tags, an id stays with the meter that has it; so who was granted a meter finds it
later under the id, and who was refused finds a meter of another kind there, or has no name. -/
namespace Telemetry.Registry
variable {registry before middle after : Registry} {handle : Handle} {meter : Meter}
  {name : String} {tags : Tags} {fresh : Instrument} {error : Error}

/-- What a registry becomes by requests and by the use of handles. -/
structure Continues (before after : Registry) : Prop where
  grows : Grows before after
  clock : after.clock = before.clock
  commonTags : after.commonTags = before.commonTags
  probes : after.probes = before.probes

namespace Continues

theorem refl (indexed : WellIndexed registry) : Continues registry registry :=
  ⟨.refl indexed, rfl, rfl, rfl⟩

theorem trans (first : Continues before middle) (second : Continues middle after) :
    Continues before after :=
  ⟨first.grows.trans second.grows, second.clock.trans first.clock,
    second.commonTags.trans first.commonTags, second.probes.trans first.probes⟩

theorem indexed (continues : Continues before after) : WellIndexed after := continues.grows.indexed

theorem effectiveId (continues : Continues before after) (name : String) (tags : Tags) :
    after.effectiveId name tags = before.effectiveId name tags := by
  rw [Registry.effectiveId, continues.commonTags, Registry.effectiveId]

theorem of_extends {new : Instrument → Prop} (grows : Grows before after)
    (growth : Extends new before after) : Continues before after :=
  ⟨grows, growth.clock, growth.commonTags, growth.probes⟩

theorem of_modify (indexed : WellIndexed registry) (handle : Handle) {change : Meter → Meter}
    (identity : KeepsIdentity change) : Continues registry (registry.modify handle change) :=
  ⟨modify_grows indexed handle identity, rfl, rfl, rfl⟩

end Continues

theorem register_continues (indexed : WellIndexed registry)
    (granted : registry.register name tags fresh = .ok (handle, after)) :
    Continues registry after :=
  .of_extends (register_holds indexed granted).1 (register_extends granted)

theorem publishQuantiles_continue (indexed : WellIndexed registry) (timer : Handle)
    (name : String) (tags : Tags) (quantiles : List Binary64) :
    Continues registry (quantiles.foldl (publishQuantile timer name tags) registry) :=
  .of_extends (publishQuantiles_grow indexed quantiles) (publishQuantiles_extend registry quantiles)

theorem timer_continues (indexed : WellIndexed registry) {quantiles : List Binary64}
    (granted : registry.timer name tags quantiles = .ok (handle, after)) :
    Continues registry after :=
  .of_extends (timer_grows indexed granted) (timer_extends granted)

theorem startTask_continues (indexed : WellIndexed registry) {sample : Sample}
    (started : registry.startTask handle = some (sample, after)) : Continues registry after := by
  rw [startTask_eq_perform started, perform_startTask]
  exact .of_modify indexed handle (mapTasks_keepsIdentity _)

theorem stopTask_continues (indexed : WellIndexed registry) (sample : Sample) :
    Continues registry (registry.stopTask sample) :=
  .of_modify indexed sample.timer (mapTasks_keepsIdentity _)

theorem record_continues (indexed : WellIndexed registry) (timer : Handle) (duration : Duration) :
    Continues registry (registry.record timer duration) :=
  .of_modify indexed timer (record_keepsIdentity duration)

/-! ## Holding -/

/-- The meter of a kind that holds the id of a name and tags. -/
def held? (registry : Registry) (kind : MeterKind) (name : String) (tags : Tags) :
    Option Handle :=
  if Text.trimmed name = "" then none
  else
    match registry.find? (registry.effectiveId name tags) with
    | some (handle, meter) => if meter.kind = kind then some handle else none
    | none => none

theorem held?_eq_some_iff {kind : MeterKind} : registry.held? kind name tags = some handle ↔
    Text.trimmed name ≠ "" ∧
      ∃ meter, registry.find? (registry.effectiveId name tags) = some (handle, meter) ∧
        meter.kind = kind := by
  unfold held?
  by_cases blank : Text.trimmed name = ""
  · simp [blank]
  · rw [if_neg blank]
    cases registry.find? (registry.effectiveId name tags) with
    | none => simp
    | some pair =>
      obtain ⟨other, meter⟩ := pair
      by_cases sameKind : meter.kind = kind
      · simp only [if_pos sameKind, Option.some.injEq, Prod.mk.injEq]
        constructor
        · rintro rfl
          exact ⟨blank, meter, ⟨rfl, rfl⟩, sameKind⟩
        · rintro ⟨-, _, ⟨same, -⟩, -⟩
          exact same
      · simp only [if_neg sameKind, reduceCtorEq, Option.some.injEq, Prod.mk.injEq, false_iff]
        rintro ⟨-, _, ⟨-, rfl⟩, isKind⟩
        exact sameKind isKind

theorem meter?_of_held? {kind : MeterKind} (held : registry.held? kind name tags = some handle) :
    ∃ meter, registry.meter? handle = some meter ∧ meter.kind = kind := by
  obtain ⟨-, meter, found, isKind⟩ := held?_eq_some_iff.mp held
  exact ⟨meter, ((find?_eq_some_iff _).mp found).2, isKind⟩

/-- A meter that is found stays where it is, of the kind that it is. -/
theorem find?_later (continues : Continues before after) {id : MeterId}
    (found : before.find? id = some (handle, meter)) :
    ∃ later, after.find? id = some (handle, later) ∧ later.kind = meter.kind := by
  obtain ⟨entry, held⟩ := (find?_eq_some_iff _).mp found
  obtain ⟨later, heldLater, -, sameKind⟩ := continues.grows.meters handle meter held
  exact ⟨later, (find?_eq_some_iff _).mpr ⟨continues.grows.entries id handle entry, heldLater⟩,
    sameKind⟩

private theorem held?_later (continues : Continues before after) {kind : MeterKind}
    (held : before.held? kind name tags = some handle) :
    after.held? kind name tags = some handle := by
  obtain ⟨written, meter, found, isKind⟩ := held?_eq_some_iff.mp held
  obtain ⟨later, foundLater, sameKind⟩ := find?_later continues found
  rw [← continues.effectiveId] at foundLater
  exact held?_eq_some_iff.mpr ⟨written, later, foundLater, sameKind.trans isKind⟩

/-- Who was granted a meter holds it from then on. -/
theorem held?_of_granted (granted : registry.register name tags fresh = .ok (handle, middle))
    (sameTags : middle.commonTags = registry.commonTags) (continues : Continues middle after) :
    after.held? fresh.kind name tags = some handle := by
  obtain ⟨meter, found, sameKind⟩ := register_finds granted
  have sameId : middle.effectiveId name tags = registry.effectiveId name tags := by
    rw [effectiveId, sameTags, effectiveId]
  have written : Text.trimmed name ≠ "" := by
    intro blank
    rw [register, if_pos ((Text.trimmed_eq_empty_iff name).mp blank)] at granted
    cases granted
  rw [← sameId] at found
  exact held?_later continues (held?_eq_some_iff.mpr ⟨written, meter, found, sameKind⟩)

/-- Who was refused a meter does not hold one later either. -/
theorem held?_of_refused (indexed : WellIndexed registry)
    (refused : registry.register name tags fresh = .error error)
    (continues : Continues registry after) : after.held? fresh.kind name tags = none := by
  cases held : after.held? fresh.kind name tags with
  | none => rfl
  | some handle =>
    obtain ⟨written, meter, found, isKind⟩ := held?_eq_some_iff.mp held
    rcases (register_eq_error_iff indexed).mp refused with
      ⟨blank, -⟩ | ⟨-, other, own, ownFound, apart, -⟩
    · exact absurd blank written
    · obtain ⟨later, foundLater, sameKind⟩ := find?_later continues ownFound
      rw [← continues.effectiveId, found] at foundLater
      cases foundLater
      exact absurd (sameKind.symm.trans isKind) apart

/-- Who was granted a timer holds it from then on, whatever became of its quantile gauges. -/
theorem held?_of_timer_granted (indexed : WellIndexed registry) {quantiles : List Binary64}
    (granted : registry.timer name tags quantiles = .ok (handle, middle))
    (continues : Continues middle after) : after.held? .timer name tags = some handle := by
  obtain ⟨registered, asked, rfl⟩ := timer_cases granted
  have registering := register_continues indexed asked
  have publishing := publishQuantiles_continue registering.indexed handle name tags
    (registered.quantilesOf handle)
  exact held?_of_granted asked registering.commonTags (publishing.trans continues)

theorem held?_of_timer_refused (indexed : WellIndexed registry) {quantiles : List Binary64}
    (refused : registry.timer name tags quantiles = .error error)
    (continues : Continues registry after) : after.held? .timer name tags = none := by
  cases asked : registry.register name tags (.timer (.new quantiles)) with
  | error reason => exact held?_of_refused indexed asked continues
  | ok answer =>
    rw [timer, asked] at refused
    cases refused

end Telemetry.Registry
