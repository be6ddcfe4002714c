import Telemetry.Export.Exposition
import Telemetry.Export.Plaintext
import Telemetry.Export.Series
import Telemetry.Proofs.Registry.Enumeration
import Telemetry.Proofs.Registry.Observation
import Telemetry.Proofs.Registry.Totals

/-! Recording commutes. What a counter and a timer show is a total of what was recorded under their id,
and a total does not depend on the order. What happens to one id is followed through a run, one
recording at a time; the order in which meters are registered is gone once they are sorted. -/
namespace Telemetry.Registry

/-! ## What is recorded -/

/-- Something that is recorded under a name and tags. -/
structure Recording where
  name : String
  tags : Tags
  quantity : Quantity
deriving DecidableEq

/-- The id that a recording is made under. -/
def Recording.id (commonTags : Tags) (recording : Recording) : MeterId :=
  ⟨recording.name, commonTags.merge recording.tags⟩

/-- Asks for the meter and records with it. Who is refused records nothing. -/
def take (registry : Registry) (recording : Recording) : Registry :=
  match recording.quantity with
  | .amount n =>
    match registry.counter recording.name recording.tags with
    | .ok (counter, after) => after.increment counter n
    | .error _ => registry
  | .duration d => registry.recordNamed recording.name recording.tags [] d

/-- Records some things, one after the other. -/
def takeAll (registry : Registry) (recordings : List Recording) : Registry :=
  recordings.foldl take registry

/-- What is recorded under an id. Nothing is recorded under a blank name. -/
def quantities (commonTags : Tags) (id : MeterId) (recordings : List Recording) : List Quantity :=
  recordings.filterMap fun recording =>
    if Text.trimmed recording.name ≠ "" ∧ recording.id commonTags = id then some recording.quantity
    else none

/-! ## One recording -/

variable {registry after : Registry} {handle : Handle} {name : String} {tags : Tags}
  {fresh : Instrument} {id : MeterId} {commonTags : Tags} {recording : Recording}
  {taken recordings permuted : List Recording}

/-- The instrument that is found under an id. -/
def instrumentAt? (registry : Registry) (id : MeterId) : Option Instrument :=
  (registry.find? id).map (·.2.instrument)

/-- What is granted is the instrument that was found, or else a new one. -/
theorem register_meter (indexed : WellIndexed registry)
    (granted : registry.register name tags fresh = .ok (handle, after)) :
    after.meter? handle = some ⟨registry.effectiveId name tags,
      (registry.instrumentAt? (registry.effectiveId name tags)).getD fresh⟩ := by
  rcases register_cases granted with ⟨missing, added⟩ | ⟨meter, found, -, rfl⟩
  · have new := registry.add_meter (registry.effectiveId name tags) fresh
    rw [added] at new
    rw [instrumentAt?, missing]
    exact new
  · obtain ⟨-, held⟩ := (find?_eq_some_iff _).mp found
    rw [instrumentAt?, found, held, ← id_of_find? indexed found]
    rfl

/-- A change behind a granted handle is seen under the id of the request and under no other. -/
private theorem instrumentAt?_modify (indexed : WellIndexed registry)
    (granted : registry.register name tags fresh = .ok (handle, after))
    (change : Meter → Meter) (id : MeterId) :
    (after.modify handle change).instrumentAt? id =
      if id = registry.effectiveId name tags then
        some (change ⟨id, (registry.instrumentAt? id).getD fresh⟩).instrument
      else registry.instrumentAt? id := by
  have index : (after.modify handle change).index.get? id =
      if id = registry.effectiveId name tags then some handle else registry.index.get? id :=
    register_index granted id
  by_cases own : id = registry.effectiveId name tags
  · subst own
    rw [if_pos rfl] at index ⊢
    have held := after.meter?_modify handle handle change
    rw [register_meter indexed granted, Option.map_some, if_pos rfl] at held
    rw [instrumentAt?, (find?_eq_some_iff _).mpr ⟨index, held⟩]
    rfl
  · rw [if_neg own] at index ⊢
    unfold instrumentAt?
    cases entry : registry.index.get? id with
    | none =>
      rw [entry] at index
      simp [find?, entry, index]
    | some other =>
      obtain ⟨meter, held, sameId⟩ := indexed id other entry
      have kept := (register_extends granted).meter? held
      -- A meter with another id is behind another handle.
      have apart : handle ≠ other := by
        rintro rfl
        rw [register_meter indexed granted] at kept
        cases kept
        exact own sameId.symm
      have later : (after.modify handle change).meter? other = some meter := by
        rw [meter?_modify, kept, Option.map_some, if_neg apart]
      rw [(find?_eq_some_iff _).mpr ⟨entry, held⟩,
        (find?_eq_some_iff _).mpr ⟨index.trans entry, later⟩]

private theorem quantilesOf_eq_nil {meter : Meter} (held : registry.meter? handle = some meter)
    (plain : ∀ timings, meter.instrument = .timer timings → timings.quantiles = []) :
    registry.quantilesOf handle = [] := by
  obtain ⟨id, instrument⟩ := meter
  rw [quantilesOf, held]
  cases instrument with
  | timer timings => exact plain timings rfl
  | _ => rfl

/-- Recording is asking for the meter and changing it: a timer that keeps no quantiles has none to
publish. -/
private theorem take_of_granted
    (granted : registry.register recording.name recording.tags recording.quantity.fresh =
      .ok (handle, after)) (plain : after.quantilesOf handle = []) :
    registry.take recording = after.modify handle recording.quantity.change := by
  obtain ⟨name, tags, quantity⟩ := recording
  cases quantity with
  | amount n =>
    have asked : registry.counter name tags = .ok (handle, after) := granted
    simp only [take, asked]
    rfl
  | duration d =>
    have registered : registry.register name tags (.timer (.new [])) = .ok (handle, after) := granted
    simp only [take, recordNamed, timer, registered, plain, List.foldl_nil]
    rfl

private theorem take_of_refused {error : Error}
    (refused : registry.register recording.name recording.tags recording.quantity.fresh =
      .error error) : registry.take recording = registry := by
  obtain ⟨name, tags, quantity⟩ := recording
  cases quantity with
  | amount n =>
    have asked : registry.counter name tags = .error error := refused
    simp only [take, asked]
  | duration d =>
    have asked : registry.register name tags (.timer (.new [])) = .error error := refused
    simp only [take, recordNamed, timer, asked]

/-! ## A run of recordings -/

/-- No id is used both by a counter and by a timer. -/
def Apart (commonTags : Tags) (recordings : List Recording) : Prop :=
  ∀ first ∈ recordings, ∀ second ∈ recordings, Text.trimmed first.name ≠ "" →
    first.id commonTags = second.id commonTags → first.quantity.kind = second.quantity.kind

instance : Decidable (Apart commonTags recordings) :=
  inferInstanceAs (Decidable (∀ first ∈ recordings, ∀ second ∈ recordings,
    Text.trimmed first.name ≠ "" → first.id commonTags = second.id commonTags →
      first.quantity.kind = second.quantity.kind))

/-- A registry that holds what was recorded so far, and nothing else. -/
structure Tallied (commonTags : Tags) (taken : List Recording) (registry : Registry) : Prop where
  indexed : WellIndexed registry
  sameTags : registry.commonTags = commonTags
  tally : ∀ id, Tally (quantities commonTags id taken) (registry.instrumentAt? id)

theorem mem_quantities_iff {quantity : Quantity} :
    quantity ∈ quantities commonTags id recordings ↔ ∃ recording ∈ recordings,
      Text.trimmed recording.name ≠ "" ∧ recording.id commonTags = id ∧
        recording.quantity = quantity := by
  simp only [quantities, List.mem_filterMap, Option.ite_none_right_eq_some, Option.some.injEq,
    and_assoc]

private theorem quantities_concat : quantities commonTags id (taken ++ [recording]) =
    quantities commonTags id taken ++
      if Text.trimmed recording.name ≠ "" ∧ recording.id commonTags = id then [recording.quantity]
      else [] := by
  rw [quantities, List.filterMap_append]
  split <;> simp [quantities, *]

/-- Where something is recorded, nothing of another kind was. -/
theorem Tallied.sameKind (tallied : Tallied commonTags taken registry)
    (apart : Apart commonTags (taken ++ [recording]))
    {instrument : Instrument}
    (found : registry.instrumentAt? (recording.id commonTags) = some instrument) :
    instrument.kind = recording.quantity.kind := by
  have tally := tallied.tally (recording.id commonTags)
  rw [found] at tally
  obtain ⟨quantity, member, kind⟩ := tally.exists_kind
  obtain ⟨earlier, isEarlier, earlierNamed, sameId, rfl⟩ := mem_quantities_iff.mp member
  rw [← kind]
  exact apart earlier (List.mem_append_left _ isEarlier) recording
    (List.mem_append_right _ (List.mem_singleton_self _)) earlierNamed sameId

theorem Tallied.take (tallied : Tallied commonTags taken registry)
    (apart : Apart commonTags (taken ++ [recording])) :
    Tallied commonTags (taken ++ [recording]) (registry.take recording) := by
  have ownId : registry.effectiveId recording.name recording.tags = recording.id commonTags := by
    rw [effectiveId, tallied.sameTags, Recording.id]
  by_cases blank : Text.trimmed recording.name = ""
  · rw [take_of_refused ((register_eq_error_iff tallied.indexed).mpr (.inl ⟨blank, rfl⟩))]
    refine ⟨tallied.indexed, tallied.sameTags, fun id => ?_⟩
    rw [quantities_concat, if_neg (fun named => named.1 blank), List.append_nil]
    exact tallied.tally id
  · cases granted : registry.register recording.name recording.tags recording.quantity.fresh with
    | error error =>
      rcases (register_eq_error_iff tallied.indexed).mp granted with
        ⟨unnamed, -⟩ | ⟨-, handle, meter, found, otherKind, -⟩
      · exact absurd unnamed blank
      · rw [ownId] at found
        have held : registry.instrumentAt? (recording.id commonTags) = some meter.instrument := by
          rw [instrumentAt?, found]
          rfl
        have same := tallied.sameKind apart held
        exact absurd (same.trans recording.quantity.fresh_kind.symm) otherKind
    | ok answer =>
      obtain ⟨handle, after⟩ := answer
      have meter := register_meter tallied.indexed granted
      rw [ownId] at meter
      have plain := quantilesOf_eq_nil meter fun timings isTimer =>
        (tallied.tally _).plain isTimer
      rw [take_of_granted granted plain]
      refine ⟨(modify_grows (register_holds tallied.indexed granted).1.indexed handle
        recording.quantity.change_keepsIdentity).indexed,
        (register_extends granted).commonTags.trans tallied.sameTags, fun id => ?_⟩
      rw [quantities_concat, instrumentAt?_modify tallied.indexed granted, ownId]
      by_cases own : id = recording.id commonTags
      · subst own
        rw [if_pos ⟨blank, rfl⟩, if_pos rfl]
        exact (tallied.tally _).record (fun instrument found => tallied.sameKind apart found) _
      · rw [if_neg (fun under => own under.2.symm), if_neg own, List.append_nil]
        exact tallied.tally id

theorem Tallied.takeAll (tallied : Tallied commonTags taken registry)
    (apart : Apart commonTags (taken ++ recordings)) :
    Tallied commonTags (taken ++ recordings) (registry.takeAll recordings) := by
  induction recordings generalizing taken registry with
  | nil => rwa [List.append_nil]
  | cons recording rest ih =>
    rw [List.append_cons] at apart ⊢
    refine ih (tallied.take fun first firstMember second secondMember => ?_) apart
    exact apart first (List.mem_append_left _ firstMember) second
      (List.mem_append_left _ secondMember)

private theorem new_tallied (clock : Clock) (commonTags : Tags) :
    Tallied commonTags [] (Registry.new clock commonTags) :=
  ⟨new_wellIndexed clock commonTags, Tags.empty_merge commonTags, fun _ => .untouched rfl⟩

/-- What a snapshot of the registry shows: the totals of what was recorded, id by id. -/
theorem Tallied.mem_snapshot_iff (tallied : Tallied commonTags taken registry) (reading : Reading) :
    reading ∈ registry.snapshot ↔
      Totals (quantities commonTags reading.id taken) reading.value := by
  have tally := tallied.tally reading.id
  rw [Registry.mem_snapshot_iff tallied.indexed]
  cases found : registry.find? reading.id with
  | none =>
    rw [instrumentAt?, found] at tally
    refine ⟨?_, fun totals => absurd totals (tally.not_totals _)⟩
    rintro ⟨_, _, same, -⟩
    cases same
  | some pair =>
    obtain ⟨handle, meter⟩ := pair
    rw [instrumentAt?, found] at tally
    rw [tally.totals_iff]
    constructor
    · rintro ⟨_, _, same, shown⟩
      cases same
      exact shown
    · exact fun shown => ⟨handle, meter, rfl, shown⟩

/-- **Recording commutes.** What is shown are the totals of what was recorded, in ascending order of
the ids: so it is the same however the recordings are put in order, and however the indexes are gone
through, and so is every text that is made of it. -/
theorem recordings_commute (clock : Clock) (commonTags : Tags)
    (reordered : recordings.Perm permuted) (apart : Apart commonTags recordings) :
    let registry := (Registry.new clock commonTags).takeAll recordings
    let other := (Registry.new clock commonTags).takeAll permuted
    (∀ reading, reading ∈ registry.snapshot ↔
      Totals (quantities commonTags reading.id recordings) reading.value) ∧
    (registry.snapshot.Pairwise fun a b => compare a.id b.id = .lt) ∧
    ∀ listed otherListed, registry.Enumerates listed → other.Enumerates otherListed →
      registry.snapshotFrom listed = registry.snapshot ∧
      other.snapshotFrom otherListed = registry.snapshotFrom listed ∧
      (∀ descriptions, Exposition.render (other.snapshotFrom otherListed) descriptions =
        Exposition.render (registry.snapshotFrom listed) descriptions) ∧
      (∀ wallMillis, Plaintext.render (other.snapshotFrom otherListed) wallMillis =
        Plaintext.render (registry.snapshotFrom listed) wallMillis) ∧
      ∀ hostTag wallMillis,
        Series.payload (Series.ofSnapshot (other.snapshotFrom otherListed) hostTag wallMillis) =
          Series.payload (Series.ofSnapshot (registry.snapshotFrom listed) hostTag wallMillis) := by
  intro registry other
  have tallied : Tallied commonTags recordings registry :=
    (new_tallied clock commonTags).takeAll apart
  have otherTallied : Tallied commonTags permuted other := by
    refine (new_tallied clock commonTags).takeAll fun first isFirst second isSecond => ?_
    exact apart first (reordered.mem_iff.mpr isFirst) second (reordered.mem_iff.mpr isSecond)
  have same : other.snapshot = registry.snapshot := by
    refine OrderedMap.eq_of_ascending (snapshot_ascending otherTallied.indexed)
      (snapshot_ascending tallied.indexed) fun reading => ?_
    rw [otherTallied.mem_snapshot_iff, tallied.mem_snapshot_iff]
    exact totals_congr (reordered.symm.filterMap _) reading.value
  refine ⟨tallied.mem_snapshot_iff, snapshot_ascending tallied.indexed, ?_⟩
  intro listed otherListed enumerated otherEnumerated
  have shown := snapshotFrom_eq tallied.indexed enumerated
  have otherShown : other.snapshotFrom otherListed = registry.snapshotFrom listed := by
    rw [snapshotFrom_eq otherTallied.indexed otherEnumerated, same, shown]
  rw [otherShown]
  exact ⟨shown, rfl, fun _ => rfl, fun _ => rfl, fun _ _ => rfl⟩

/-- A counter whose tags are written in two orders, a timer, and a name that is refused. -/
theorem recordings_commute_reversed :
    let recordings : List Recording :=
      [⟨"jobs", .ofList [("zone", "a"), ("env", "live")], .amount 2⟩,
       ⟨"runs", .ofList [("env", "test")], .duration ⟨5⟩⟩,
       ⟨" ", .empty, .duration ⟨7⟩⟩,
       ⟨"runs", .empty, .duration ⟨3⟩⟩,
       ⟨"jobs", .ofList [("env", "live"), ("zone", "a")], .amount 3⟩]
    let commonTags : Tags := .ofList [("env", "test")]
    let registry := (Registry.new ⟨0, 0⟩ commonTags).takeAll recordings
    let other := (Registry.new ⟨0, 0⟩ commonTags).takeAll recordings.reverse
    recordings.Perm recordings.reverse ∧ Apart commonTags recordings ∧
      registry.snapshotFrom registry.index.values = registry.snapshot ∧
      other.snapshotFrom other.index.values = registry.snapshotFrom registry.index.values := by
  intro recordings commonTags registry other
  have reordered : recordings.Perm recordings.reverse := (List.reverse_perm recordings).symm
  have apart : Apart commonTags recordings := by decide +kernel
  obtain ⟨-, -, same⟩ := recordings_commute ⟨0, 0⟩ commonTags reordered apart
  obtain ⟨shown, otherShown, -⟩ := same _ _ (.refl _) (.refl _)
  exact ⟨reordered, apart, shown, otherShown⟩

end Telemetry.Registry
