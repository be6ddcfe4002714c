import Telemetry.Proofs.Registry.Registration

/-! The order in which the index is gone through does not matter. Whoever reads all meters goes through
the index in some order and sorts what he finds by id; as no two meters have the same id there, one
order is all that can come out. -/
namespace Telemetry.Registry
variable {registry : Registry} {listed : List Handle} {handle : Handle} {meter : Meter}
  {reading : Reading}

/-- The handles of the index, each once, in any order. -/
def Enumerates (registry : Registry) (listed : List Handle) : Prop :=
  listed.Perm registry.index.values

/-- The meters behind some handles. -/
def behind (registry : Registry) (listed : List Handle) : List (Handle × Meter) :=
  listed.filterMap fun handle => (registry.meter? handle).map (handle, ·)

/-- The meters behind some handles, sorted by their ids. -/
def metersFrom (registry : Registry) (listed : List Handle) : List (Handle × Meter) :=
  (registry.behind listed).mergeSort fun a b => (compare a.2.id b.2.id).isLE

/-- What the meters behind some handles show, sorted by their ids. -/
def snapshotFrom (registry : Registry) (listed : List Handle) : Snapshot :=
  (registry.metersFrom listed).map fun (_, meter) => ⟨meter.id, registry.valueOf meter⟩

theorem mem_behind_iff :
    (handle, meter) ∈ registry.behind listed ↔ handle ∈ listed ∧ registry.meter? handle = some meter := by
  simp only [behind, List.mem_filterMap, Option.map_eq_some_iff, Prod.mk.injEq]
  constructor
  · rintro ⟨_, member, _, held, rfl, rfl⟩
    exact ⟨member, held⟩
  · rintro ⟨member, held⟩
    exact ⟨handle, member, meter, held, rfl, rfl⟩

/-- The meters of a registry are those that are found under their own ids. -/
theorem mem_meters_iff (indexed : WellIndexed registry) :
    (handle, meter) ∈ registry.meters ↔ registry.find? meter.id = some (handle, meter) := by
  change (handle, meter) ∈ registry.behind registry.index.values ↔ _
  rw [mem_behind_iff, find?_eq_some_iff]
  refine and_congr_left fun held => ?_
  simp only [OrderedMap.values, List.mem_map, Prod.exists]
  constructor
  · rintro ⟨id, _, member, rfl⟩
    have entry := (registry.index.get?_eq_some_iff).mpr member
    obtain ⟨other, heldToo, sameId⟩ := indexed id _ entry
    rw [held] at heldToo
    cases heldToo
    rwa [sameId]
  · intro entry
    exact ⟨meter.id, handle, (registry.index.get?_eq_some_iff).mp entry, rfl⟩

/-- The ids of the meters ascend strictly. -/
theorem meters_ascending (indexed : WellIndexed registry) :
    registry.meters.Pairwise fun a b => compare a.2.id b.2.id = .lt := by
  rw [meters, OrderedMap.values, List.filterMap_map, List.pairwise_filterMap]
  refine registry.index.ascending.imp_of_mem ?_
  rintro ⟨id, handle⟩ ⟨above, later⟩ member laterMember below found isFound other isOther
  have own (entry : MeterId × Handle) (member : entry ∈ registry.index.entries)
      (found : Handle × Meter) (isFound : (registry.meter? entry.2).map (entry.2, ·) = some found) :
      found.2.id = entry.1 := by
    obtain ⟨meter, held, sameId⟩ := indexed _ _ ((registry.index.get?_eq_some_iff).mpr member)
    rw [held] at isFound
    cases isFound
    exact sameId
  rw [own _ member _ isFound, own _ laterMember _ isOther]
  exact below

private theorem compare_isLE_total (a b : MeterId) :
    ((compare a b).isLE || (compare b a).isLE) = true := by
  rw [Std.OrientedOrd.eq_swap (a := a) (b := b)]
  cases compare b a <;> rfl

/-- Of meters with different ids, sorting by the ids brings out the one order that ascends. -/
theorem mergeSort_eq_of_ascending {found ascending : List (Handle × Meter)}
    (same : found.Perm ascending)
    (ascends : ascending.Pairwise fun a b => compare a.2.id b.2.id = .lt) :
    (found.mergeSort fun a b => (compare a.2.id b.2.id).isLE) = ascending := by
  have reordered := (List.mergeSort_perm found fun a b => (compare a.2.id b.2.id).isLE).trans same
  have sorted : (found.mergeSort fun a b => (compare a.2.id b.2.id).isLE).Pairwise fun a b =>
      (compare a.2.id b.2.id).isLE = true := by
    refine List.pairwise_mergeSort ?_ ?_ _
    · exact fun a b c first second => Std.TransOrd.isLE_trans first second
    · exact fun a b => compare_isLE_total a.2.id b.2.id
  have apart : ascending.Pairwise fun a b => a.2.id ≠ b.2.id := ascends.imp fun below sameId => by
    rw [sameId, Std.ReflOrd.compare_self] at below
    cases below
  have sortedApart := (reordered.pairwise_iff Ne.symm).mpr apart
  refine OrderedMap.eq_of_ascending ?_ ascends fun _ => reordered.mem_iff
  refine (sorted.and sortedApart).imp fun {a b} ⟨notAbove, differ⟩ => ?_
  cases order : compare a.2.id b.2.id with
  | lt => rfl
  | eq => exact absurd (Std.LawfulEqOrd.eq_of_compare order) differ
  | gt =>
    rw [order] at notAbove
    cases notAbove

/-- However the index is gone through, the meters come out the same. -/
theorem metersFrom_eq (indexed : WellIndexed registry) (enumerated : registry.Enumerates listed) :
    registry.metersFrom listed = registry.meters :=
  mergeSort_eq_of_ascending (enumerated.filterMap _) (meters_ascending indexed)

theorem snapshotFrom_eq (indexed : WellIndexed registry) (enumerated : registry.Enumerates listed) :
    registry.snapshotFrom listed = registry.snapshot := by
  rw [snapshotFrom, metersFrom_eq indexed enumerated, snapshot]

theorem mem_snapshot_iff (indexed : WellIndexed registry) :
    reading ∈ registry.snapshot ↔ ∃ handle meter,
      registry.find? reading.id = some (handle, meter) ∧ reading.value = registry.valueOf meter := by
  simp only [snapshot, List.mem_map, Prod.exists]
  constructor
  · rintro ⟨handle, meter, member, rfl⟩
    exact ⟨handle, meter, (mem_meters_iff indexed).mp member, rfl⟩
  · rintro ⟨handle, meter, found, sameValue⟩
    have sameId := id_of_find? indexed found
    rw [← sameId] at found
    refine ⟨handle, meter, (mem_meters_iff indexed).mpr found, ?_⟩
    rw [sameId, ← sameValue]

theorem snapshot_ascending (indexed : WellIndexed registry) :
    registry.snapshot.Pairwise fun a b => compare a.id b.id = .lt :=
  List.pairwise_map.mpr (meters_ascending indexed)

end Telemetry.Registry
