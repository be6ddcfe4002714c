import Telemetry.Proofs.OrderedMap
import Telemetry.Proofs.Registry.Run
import Telemetry.Proofs.Tags

/-! One instance for each id, over whole runs. Every entry of the index leads to a meter with that
very id; between two clears entries are only added, and no operation ever touches the id or the
kind of a meter. So the handles that a registry gives out are equal exactly if the ids are. -/
namespace Telemetry.Registry
variable {registry before middle after : Registry} {id : MeterId} {handle timer : Handle}
  {meter : Meter} {name : String} {tags : Tags} {fresh : Instrument} {registration : Registration}

/-- Each entry of the index leads to a meter that has the key of the entry as its own id. -/
def WellIndexed (registry : Registry) : Prop :=
  ∀ id handle, registry.index.get? id = some handle →
    ∃ meter, registry.meter? handle = some meter ∧ meter.id = id

/-- The meter behind each handle keeps its id and its kind. -/
def KeepsMeters (before after : Registry) : Prop :=
  ∀ handle meter, before.meter? handle = some meter →
    ∃ later, after.meter? handle = some later ∧ later.id = meter.id ∧ later.kind = meter.kind

/-- What a registry becomes as long as it is not cleared: no entry is lost or led elsewhere. -/
structure Grows (before after : Registry) : Prop where
  indexed : WellIndexed after
  meters : KeepsMeters before after
  entries : ∀ id handle, before.index.get? id = some handle → after.index.get? id = some handle

/-- A registration that can be found: its handle stands under its id and leads to a meter with that
id and kind. -/
def Holds (registry : Registry) (registration : Registration) : Prop :=
  registry.index.get? registration.id = some registration.handle ∧
    ∃ meter, registry.meter? registration.handle = some meter ∧
      meter.id = registration.id ∧ meter.kind = registration.kind

theorem KeepsMeters.refl (registry : Registry) : KeepsMeters registry registry :=
  fun _ meter held => ⟨meter, held, rfl, rfl⟩

theorem KeepsMeters.trans (first : KeepsMeters before middle) (second : KeepsMeters middle after) :
    KeepsMeters before after := by
  intro handle meter held
  obtain ⟨between, heldBetween, sameId, sameKind⟩ := first handle meter held
  obtain ⟨later, heldLater, sameId', sameKind'⟩ := second handle between heldBetween
  exact ⟨later, heldLater, sameId'.trans sameId, sameKind'.trans sameKind⟩

theorem Grows.refl (indexed : WellIndexed registry) : Grows registry registry :=
  ⟨indexed, .refl registry, fun _ _ held => held⟩

theorem Grows.trans (first : Grows before middle) (second : Grows middle after) :
    Grows before after :=
  ⟨second.indexed, first.meters.trans second.meters,
    fun id handle held => second.entries id handle (first.entries id handle held)⟩

private theorem Holds.grows (held : Holds before registration) (grows : Grows before after) :
    Holds after registration := by
  obtain ⟨entry, meter, heldMeter, sameId, sameKind⟩ := held
  obtain ⟨later, heldLater, laterId, laterKind⟩ := grows.meters _ meter heldMeter
  exact ⟨grows.entries _ _ entry, later, heldLater, laterId.trans sameId, laterKind.trans sameKind⟩

theorem find?_eq_some_iff (registry : Registry) :
    registry.find? id = some (handle, meter) ↔
      registry.index.get? id = some handle ∧ registry.meter? handle = some meter := by
  cases entry : registry.index.get? id with
  | none => simp [find?, entry]
  | some other =>
    cases held : registry.meter? other with
    | none =>
      simp only [find?, entry, held, Option.bind_eq_bind, Option.bind_some, Option.bind_none,
        reduceCtorEq, Option.some.injEq, false_iff, not_and]
      rintro rfl
      simp [held]
    | some found =>
      simp only [find?, entry, held, Option.bind_eq_bind, Option.bind_some, Option.pure_def,
        Option.some.injEq, Prod.mk.injEq]
      constructor
      · rintro ⟨rfl, rfl⟩
        exact ⟨rfl, held⟩
      · rintro ⟨rfl, same⟩
        rw [held] at same
        cases same
        exact ⟨rfl, rfl⟩

theorem absent_of_find?_eq_none (indexed : WellIndexed registry)
    (missing : registry.find? id = none) : registry.index.get? id = none := by
  cases entry : registry.index.get? id with
  | none => rfl
  | some handle =>
    obtain ⟨meter, held, -⟩ := indexed id handle entry
    rw [(registry.find?_eq_some_iff).mpr ⟨entry, held⟩] at missing
    cases missing

/-! ## What a single operation does -/

/-- All that a request for a meter can do when it is granted: it adds the meter, or it finds one of
the kind that was asked for and changes nothing. -/
theorem register_cases (granted : registry.register name tags fresh = .ok (handle, after)) :
    (registry.find? (registry.effectiveId name tags) = none ∧
      registry.add (registry.effectiveId name tags) fresh = (handle, after)) ∨
    ∃ meter, registry.find? (registry.effectiveId name tags) = some (handle, meter) ∧
      meter.kind = fresh.kind ∧ after = registry := by
  unfold register at granted
  split at granted
  · cases granted
  · dsimp only at granted
    split at granted
    · rename_i missing
      exact .inl ⟨missing, Except.ok.inj granted⟩
    · rename_i other meter found
      split at granted
      · rename_i sameKind
        cases granted
        exact .inr ⟨meter, found, sameKind, rfl⟩
      · cases granted

theorem add_meter (registry : Registry) (id : MeterId) (instrument : Instrument) :
    (registry.add id instrument).2.meter? (registry.add id instrument).1 = some ⟨id, instrument⟩ :=
  List.getElem?_concat_length

theorem add_keeps (registry : Registry) (id : MeterId) (instrument : Instrument) :
    KeepsMeters registry (registry.add id instrument).2 := by
  intro handle meter held
  obtain ⟨bound, -⟩ := List.getElem?_eq_some_iff.mp held
  exact ⟨meter, (List.getElem?_append_left bound).trans held, rfl, rfl⟩

theorem add_grows (indexed : WellIndexed registry) (absent : registry.index.get? id = none)
    (instrument : Instrument) : Grows registry (registry.add id instrument).2 := by
  refine ⟨?_, registry.add_keeps id instrument, ?_⟩
  · intro other handle entry
    change (registry.index.insert id ⟨registry.instances.length⟩).get? other = some handle at entry
    by_cases same : other = id
    · subst same
      rw [OrderedMap.get?_insert_self] at entry
      cases entry
      exact ⟨_, registry.add_meter other instrument, rfl⟩
    · rw [OrderedMap.get?_insert_of_ne _ _ same] at entry
      obtain ⟨meter, held, sameId⟩ := indexed other handle entry
      obtain ⟨later, heldLater, laterId, -⟩ := registry.add_keeps id instrument handle meter held
      exact ⟨later, heldLater, laterId.trans sameId⟩
  · intro other handle entry
    have apart : other ≠ id := by
      rintro rfl
      rw [absent] at entry
      cases entry
    exact (OrderedMap.get?_insert_of_ne _ _ apart).trans entry

/-- A request that is granted leaves the registry grown, with the registration in it. -/
theorem register_holds (indexed : WellIndexed registry)
    (granted : registry.register name tags fresh = .ok (handle, after)) :
    Grows registry after ∧ Holds after ⟨registry.effectiveId name tags, fresh.kind, handle⟩ := by
  rcases register_cases granted with ⟨missing, added⟩ | ⟨meter, found, sameKind, rfl⟩
  · have absent := absent_of_find?_eq_none indexed missing
    have grows := add_grows indexed absent fresh
    have meter := registry.add_meter (registry.effectiveId name tags) fresh
    have entry : (registry.add (registry.effectiveId name tags) fresh).2.index.get?
        (registry.effectiveId name tags) =
          some (registry.add (registry.effectiveId name tags) fresh).1 :=
      OrderedMap.get?_insert_self _ _ _
    rw [added] at grows meter entry
    exact ⟨grows, entry, _, meter, rfl, rfl⟩
  · obtain ⟨entry, held⟩ := (find?_eq_some_iff _).mp found
    obtain ⟨other, heldOther, sameId⟩ := indexed _ _ entry
    rw [held] at heldOther
    cases heldOther
    exact ⟨.refl indexed, entry, meter, held, sameId, sameKind⟩

/-- Whatever a request comes to, the registry has only grown. -/
theorem afterAsking_grows (indexed : WellIndexed registry)
    (answer : Except Error (Handle × Registry))
    (granted : ∀ handle after, answer = .ok (handle, after) → Grows registry after) :
    Grows registry (registry.afterAsking answer) := by
  cases answer with
  | error error => exact .refl indexed
  | ok answer => exact granted answer.1 answer.2 rfl

theorem publishQuantile_eq (timer : Handle) (name : String) (tags : Tags) (registry : Registry)
    (q : Binary64) :
    publishQuantile timer name tags registry q =
      registry.afterAsking
        (registry.gauge (quantileGaugeName name) (quantileGaugeTags tags q) (.quantile timer q)) := by
  unfold publishQuantile
  cases registry.gauge (quantileGaugeName name) (quantileGaugeTags tags q) (.quantile timer q) <;>
    rfl

theorem publishQuantile_grows (indexed : WellIndexed registry) (timer : Handle) (name : String)
    (tags : Tags) (q : Binary64) : Grows registry (publishQuantile timer name tags registry q) := by
  rw [publishQuantile_eq]
  exact afterAsking_grows indexed _ fun _ _ granted => (register_holds indexed granted).1

theorem publishQuantiles_grow (indexed : WellIndexed registry) (quantiles : List Binary64) :
    Grows registry (quantiles.foldl (publishQuantile timer name tags) registry) := by
  induction quantiles generalizing registry with
  | nil => exact .refl indexed
  | cons q rest ih =>
    have first := publishQuantile_grows indexed timer name tags q
    exact first.trans (ih first.indexed)

/-- A timer is registered first; the gauges of its quantiles are only added to that. -/
theorem timer_cases (granted : registry.timer name tags quantiles = .ok (handle, after)) :
    ∃ registered, registry.register name tags (.timer (.new quantiles)) = .ok (handle, registered) ∧
      after = (registered.quantilesOf handle).foldl (publishQuantile handle name tags) registered := by
  unfold timer at granted
  split at granted
  · cases granted
  · rename_i other registered asked
    cases granted
    exact ⟨registered, asked, rfl⟩

theorem timer_grows (indexed : WellIndexed registry)
    (granted : registry.timer name tags quantiles = .ok (handle, after)) : Grows registry after := by
  obtain ⟨registered, asked, rfl⟩ := timer_cases granted
  have first := (register_holds indexed asked).1
  exact first.trans (publishQuantiles_grow first.indexed _)

/-- A change that leaves the id and the kind of every meter alone. -/
def KeepsIdentity (change : Meter → Meter) : Prop :=
  ∀ meter, (change meter).id = meter.id ∧ (change meter).kind = meter.kind

theorem increment_keepsIdentity (amount : UInt64) : KeepsIdentity (Meter.increment amount) := by
  rintro ⟨id, instrument⟩
  cases instrument <;> exact ⟨rfl, rfl⟩

theorem record_keepsIdentity (duration : Duration) : KeepsIdentity (Meter.record duration) := by
  rintro ⟨id, instrument⟩
  cases instrument <;> exact ⟨rfl, rfl⟩

theorem mapTasks_keepsIdentity (change : LongTasks → LongTasks) :
    KeepsIdentity (Meter.mapTasks change) := by
  rintro ⟨id, instrument⟩
  cases instrument <;> exact ⟨rfl, rfl⟩

/-- An unchanged index stays right as long as the meters keep their ids. -/
theorem grows_of_same_index (indexed : WellIndexed before) (kept : KeepsMeters before after)
    (same : after.index = before.index) : Grows before after := by
  refine ⟨?_, kept, fun _ _ entry => by rw [same]; exact entry⟩
  intro id handle entry
  rw [same] at entry
  obtain ⟨meter, held, sameId⟩ := indexed id handle entry
  obtain ⟨later, heldLater, laterId, -⟩ := kept handle meter held
  exact ⟨later, heldLater, laterId.trans sameId⟩

theorem modify_keeps (registry : Registry) (handle : Handle) (identity : KeepsIdentity change) :
    KeepsMeters registry (registry.modify handle change) := by
  intro other meter held
  change ∃ later, (registry.instances.modify handle.index change)[other.index]? = some later ∧ _
  rw [List.getElem?_modify, show registry.instances[other.index]? = some meter from held]
  by_cases same : handle.index = other.index
  · exact ⟨change meter, by simp [same], identity meter⟩
  · exact ⟨meter, by simp [same], rfl, rfl⟩

theorem modify_grows (indexed : WellIndexed registry) (handle : Handle)
    (identity : KeepsIdentity change) : Grows registry (registry.modify handle change) :=
  grows_of_same_index indexed (registry.modify_keeps handle identity) rfl

theorem startTask_grows (indexed : WellIndexed registry) (timer : Handle) :
    Grows registry (((registry.startTask timer).map (·.2)).getD registry) := by
  unfold startTask
  split
  · exact .refl indexed
  · exact modify_grows indexed timer (mapTasks_keepsIdentity _)

/-- Every operation but a clear only makes a registry grow. -/
theorem perform_grows (indexed : WellIndexed registry) {operation : Operation}
    (unclear : operation ≠ .clear) : Grows registry (registry.perform operation) := by
  cases operation with
  | counter name tags =>
    exact afterAsking_grows indexed _ fun _ _ granted => (register_holds indexed granted).1
  | gauge name tags source =>
    exact afterAsking_grows indexed _ fun _ _ granted => (register_holds indexed granted).1
  | timer name tags quantiles =>
    exact afterAsking_grows indexed _ fun _ _ granted => timer_grows indexed granted
  | longTaskTimer name tags =>
    exact afterAsking_grows indexed _ fun _ _ granted => (register_holds indexed granted).1
  | addCommonTags tags => exact grows_of_same_index indexed (.refl registry) rfl
  | clear => exact absurd rfl unclear
  | increment counter amount => exact modify_grows indexed counter (increment_keepsIdentity amount)
  | record timer duration => exact modify_grows indexed timer (record_keepsIdentity duration)
  | startTask timer => exact startTask_grows indexed timer
  | stopTask sample => exact modify_grows indexed sample.timer (mapTasks_keepsIdentity _)
  | advance amount => exact grows_of_same_index indexed (.refl registry) rfl
  | setProbe probe value => exact grows_of_same_index indexed (.refl registry) rfl

/-- A clear empties the index and lets the meters be, so that kept handles go on. -/
theorem clear_keeps (registry : Registry) :
    WellIndexed registry.clear ∧ KeepsMeters registry registry.clear := by
  refine ⟨?_, .refl registry⟩
  intro id handle entry
  cases entry

theorem perform_keeps (indexed : WellIndexed registry) (operation : Operation) :
    WellIndexed (registry.perform operation) ∧
      KeepsMeters registry (registry.perform operation) := by
  by_cases cleared : operation = .clear
  · subst cleared
    exact registry.clear_keeps
  · have grows := perform_grows indexed cleared
    exact ⟨grows.indexed, grows.meters⟩

/-! ## What a run does -/

theorem new_wellIndexed (clock : Clock) (commonTags : Tags) :
    WellIndexed (Registry.new clock commonTags) := by
  intro id handle entry
  cases entry

theorem run_keeps (indexed : WellIndexed registry) (operations : List Operation) :
    WellIndexed (registry.run operations) ∧ KeepsMeters registry (registry.run operations) := by
  induction operations generalizing registry with
  | nil => exact ⟨indexed, .refl registry⟩
  | cons operation rest ih =>
    obtain ⟨indexedNext, keptFirst⟩ := perform_keeps indexed operation
    obtain ⟨indexedLast, keptRest⟩ := ih indexedNext
    exact ⟨indexedLast, keptFirst.trans keptRest⟩

theorem run_grows (indexed : WellIndexed registry) {operations : List Operation}
    (unclear : .clear ∉ operations) : Grows registry (registry.run operations) := by
  induction operations generalizing registry with
  | nil => exact .refl indexed
  | cons operation rest ih =>
    have restUnclear := List.not_mem_of_not_mem_cons unclear
    have first := perform_grows indexed (List.ne_of_not_mem_cons unclear).symm
    exact first.trans (ih first.indexed restUnclear)

/-- What a run from a registry without meters leads to has a sound index. -/
theorem history_wellIndexed (clock : Clock) (commonTags : Tags) (history : List Operation) :
    WellIndexed ((Registry.new clock commonTags).run history) :=
  (run_keeps (new_wellIndexed clock commonTags) history).1

private theorem granted_holds (indexed : WellIndexed registry) (fresh : Instrument)
    (member : registration ∈ registry.granted name tags fresh.kind
      (registry.register name tags fresh)) :
    Holds (registry.afterAsking (registry.register name tags fresh)) registration := by
  cases asked : registry.register name tags fresh with
  | error error =>
    rw [asked] at member
    cases member
  | ok answer =>
    rw [asked] at member
    cases List.mem_singleton.mp member
    exact (register_holds indexed asked).2

theorem quantileRegistrations_hold (indexed : WellIndexed registry) (quantiles : List Binary64)
    (member : registration ∈ quantileRegistrations timer name tags registry quantiles) :
    Holds (quantiles.foldl (publishQuantile timer name tags) registry) registration := by
  induction quantiles generalizing registry with
  | nil => cases member
  | cons q rest ih =>
    have first := publishQuantile_grows indexed timer name tags q
    rcases List.mem_append.mp member with own | later
    · have held := granted_holds indexed (.gauge (.quantile timer q)) own
      rw [← gauge, ← publishQuantile_eq] at held
      exact held.grows (publishQuantiles_grow first.indexed rest)
    · exact ih first.indexed later

/-- Each registration that an operation makes can be found when it is done, those of quantile gauges
included. -/
theorem registrationsOf_hold (indexed : WellIndexed registry) (operation : Operation)
    (member : registration ∈ registry.registrationsOf operation) :
    Holds (registry.perform operation) registration := by
  cases operation with
  | counter name tags => exact granted_holds indexed (.counter 0) member
  | gauge name tags source => exact granted_holds indexed (.gauge source) member
  | longTaskTimer name tags => exact granted_holds indexed (.longTaskTimer .empty) member
  | timer name tags quantiles =>
    simp only [registrationsOf, perform] at member ⊢
    cases asked : registry.register name tags (.timer (.new quantiles)) with
    | error error => simp [timer, asked, granted] at member
    | ok answer =>
      obtain ⟨handle, registered⟩ := answer
      obtain ⟨first, held⟩ := register_holds indexed asked
      simp only [timer, asked, granted, afterAsking, List.singleton_append] at member ⊢
      rcases List.mem_cons.mp member with rfl | gauge
      · exact held.grows (publishQuantiles_grow first.indexed _)
      · exact quantileRegistrations_hold first.indexed _ gauge
  | _ => cases member

theorem registrations_hold (indexed : WellIndexed registry) {operations : List Operation}
    (unclear : .clear ∉ operations) (member : registration ∈ registry.registrations operations) :
    Holds (registry.run operations) registration := by
  induction operations generalizing registry with
  | nil => cases member
  | cons operation rest ih =>
    have restUnclear := List.not_mem_of_not_mem_cons unclear
    have first := perform_grows indexed (List.ne_of_not_mem_cons unclear).symm
    rcases List.mem_append.mp member with own | later
    · exact (registrationsOf_hold indexed operation own).grows (run_grows first.indexed restUnclear)
    · exact ih first.indexed restUnclear later

/-- **One instance for each id.** In every state that a registry without meters can get to, each
entry of the index leads to a meter with that id. As long as nobody clears the registry, the
instance and the kind under an id stay, and of all registrations, those of quantile gauges included,
two have the same instance exactly if they were made under the same effective id. An effective id
has its tags from the request first and from the common tags second; and whatever happens later, a
meter keeps its id and its kind. -/
theorem one_instance_per_id (clock : Clock) (commonTags : Tags) (history : List Operation) :
    let registry := (Registry.new clock commonTags).run history
    (∀ id handle, registry.index.get? id = some handle →
      ∃ meter, registry.meter? handle = some meter ∧ meter.id = id) ∧
    (∀ during : List Operation, .clear ∉ during →
      (∀ id handle meter, registry.find? id = some (handle, meter) →
        ∃ later, (registry.run during).find? id = some (handle, later) ∧
          later.kind = meter.kind) ∧
      ∀ first ∈ registry.registrations during, ∀ second ∈ registry.registrations during,
        (first.handle = second.handle ↔ first.id = second.id)) ∧
    (∀ name tags, (registry.effectiveId name tags).name = name ∧
      ∀ key, (registry.effectiveId name tags).tags.get? key =
        (tags.get? key).or (registry.commonTags.get? key)) ∧
    ∀ handle meter, registry.meter? handle = some meter → ∀ afterwards : List Operation,
      ∃ later, (registry.run afterwards).meter? handle = some later ∧
        later.id = meter.id ∧ later.kind = meter.kind := by
  intro registry
  have indexed : WellIndexed registry := history_wellIndexed clock commonTags history
  refine ⟨indexed, fun during unclear => ⟨?_, ?_⟩, ?_, ?_⟩
  · intro id handle meter found
    obtain ⟨entry, held⟩ := (find?_eq_some_iff _).mp found
    have grows := run_grows indexed unclear
    obtain ⟨later, heldLater, -, sameKind⟩ := grows.meters handle meter held
    exact ⟨later, (find?_eq_some_iff _).mpr ⟨grows.entries id handle entry, heldLater⟩, sameKind⟩
  · intro first memFirst second memSecond
    obtain ⟨entryFirst, meter, held, sameId, -⟩ := registrations_hold indexed unclear memFirst
    obtain ⟨entrySecond, other, heldOther, otherId, -⟩ := registrations_hold indexed unclear memSecond
    constructor
    · intro same
      rw [same, heldOther] at held
      cases held
      exact sameId.symm.trans otherId
    · intro same
      rw [same, entrySecond] at entryFirst
      exact (Option.some.inj entryFirst).symm
  · intro name tags
    exact ⟨rfl, fun key => Tags.get?_merge _ _ key⟩
  · intro handle meter held afterwards
    exact (run_keeps indexed afterwards).2 handle meter held

/-- Common tags that change in between and explicit ones over them: the second counter is the first
one, the third has a tag more and is another one. -/
theorem one_instance_per_id_under_common_tags :
    let registry := (Registry.new ⟨0, 0⟩ .empty).run [.addCommonTags (.ofList [("env", "test")])]
    let during : List Operation :=
      [.counter "jobs" (.ofList [("env", "live")]),
       .addCommonTags (.ofList [("env", "live")]),
       .counter "jobs" .empty,
       .addCommonTags (.ofList [("zone", "a")]),
       .counter "jobs" .empty]
    .clear ∉ during ∧
    (∀ first ∈ registry.registrations during, ∀ second ∈ registry.registrations during,
      (first.handle = second.handle ↔ first.id = second.id)) ∧
    (registry.registrations during).map (·.handle) = [⟨0⟩, ⟨0⟩, ⟨1⟩] :=
  ⟨by simp, ((one_instance_per_id ⟨0, 0⟩ .empty
    [.addCommonTags (.ofList [("env", "test")])]).2.1 _ (by simp)).2, by decide +kernel⟩

end Telemetry.Registry
