import Mathlib.Data.List.Forall2
import Telemetry.Proofs.Path.Alphabet

/-! Hierarchical names taken apart again. No level has a dot in it, so cutting a name at its dots gives
the levels that it was made of; and as every tag has two of them, names that have as many levels of the
meter's own agree level by level, and so tag by tag. -/
namespace Telemetry.Path
variable {id other : MeterId} {statistic another : Statistic}

/-- The levels that a meter's own name has. -/
def nameLevels (id : MeterId) : List (List Char) := (Text.splitOn '.' id.name.toList).map level

/-- Tags that look the same in a hierarchical name. -/
def SameTag (tag other : String × String) : Prop :=
  level tag.1.toList = level other.1.toList ∧ level tag.2.toList = level other.2.toList

/-- Cutting a hierarchical name at its dots gives its levels. -/
theorem splitOn_name (id : MeterId) (statistic : Statistic) :
    Text.splitOn '.' (name id statistic).toList = levels id statistic := by
  rw [name, String.toList_ofList]
  refine Text.splitOn_intercalate ?_ fun piece own dot => ?_
  · simp [levels]
  · exact absurd (isKept_of_mem_levels own dot) (by decide)

private theorem levels_eq (id : MeterId) (statistic : Statistic) :
    levels id statistic =
      nameLevels id ++ (id.tags.entries.flatMap tagLevels ++ [statistic.suffix.toList]) :=
  List.append_assoc _ _ _

private theorem length_flatMap_tagLevels (tags : List (String × String)) :
    (tags.flatMap tagLevels).length = 2 * tags.length := by
  induction tags with
  | nil => rfl
  | cons tag rest ih =>
    rw [List.flatMap_cons, List.length_append, ih, List.length_cons, tagLevels, List.length_cons,
      List.length_singleton]
    omega

/-- Tag levels are the same exactly if they are of as many tags that look the same. -/
theorem flatMap_tagLevels_eq_iff (tags others : List (String × String)) :
    tags.flatMap tagLevels = others.flatMap tagLevels ↔ List.Forall₂ SameTag tags others := by
  induction tags generalizing others with
  | nil => cases others <;> simp [tagLevels]
  | cons tag rest ih =>
    cases others with
    | nil => simp [tagLevels]
    | cons other more =>
      rw [List.forall₂_cons, ← ih more]
      simp [tagLevels, SameTag, and_assoc]

/-- Hierarchical names are the same exactly if their levels are. -/
theorem name_eq_iff :
    name id statistic = name other another ↔ levels id statistic = levels other another := by
  constructor
  · intro same
    rw [← splitOn_name, ← splitOn_name, same]
  · intro same
    rw [name, name, same]

/-- What two numbers have in common whose hierarchical names are the same. -/
structure SamePlace (id : MeterId) (statistic : Statistic) (other : MeterId) (another : Statistic) :
    Prop where
  names : nameLevels id = nameLevels other
  size : id.tags.size = other.tags.size
  tags : List.Forall₂ SameTag id.tags.entries other.tags.entries
  suffix : statistic.suffix = another.suffix

theorem levels_eq_iff (aligned : (nameLevels id).length = (nameLevels other).length) :
    levels id statistic = levels other another ↔ SamePlace id statistic other another := by
  rw [levels_eq, levels_eq]
  constructor
  · intro same
    obtain ⟨names, rest⟩ := List.append_inj same aligned
    obtain ⟨tags, suffix⟩ := List.append_inj' rest rfl
    have tags := (flatMap_tagLevels_eq_iff _ _).mp tags
    exact ⟨names, tags.length_eq, tags, String.toList_injective (List.singleton_inj.mp suffix)⟩
  · rintro ⟨names, -, tags, suffix⟩
    rw [names, (flatMap_tagLevels_eq_iff _ _).mpr tags, suffix]

/-- **Hierarchical names keep their levels.** Cut at its dots, a name has the levels of the meter's name,
then a level for the key and one for the value of each tag in the order of the keys, then the statistic:
whatever tags hold, they add two levels each. So among meters whose names have as many levels, one
hierarchical name is that of one statistic, of names that agree level by level, and of as many tags that
agree in their keys and their values. -/
theorem name_keeps_levels (id : MeterId) (statistic : Statistic) :
    Text.splitOn '.' (name id statistic).toList =
      (Text.splitOn '.' id.name.toList).map level ++
        id.tags.entries.flatMap (fun tag => [level tag.1.toList, level tag.2.toList]) ++
        [statistic.suffix.toList] ∧
    (Text.splitOn '.' (name id statistic).toList).length =
      (Text.splitOn '.' id.name.toList).length + 2 * id.tags.size + 1 ∧
    ∀ (other : MeterId) (another : Statistic),
      (Text.splitOn '.' id.name.toList).length = (Text.splitOn '.' other.name.toList).length →
      (name id statistic = name other another ↔ SamePlace id statistic other another) := by
  refine ⟨splitOn_name id statistic, ?_, fun other another aligned => ?_⟩
  · rw [splitOn_name, levels_eq, List.length_append, List.length_append, length_flatMap_tagLevels,
      List.length_singleton, nameLevels, List.length_map, OrderedMap.size]
    omega
  · rw [name_eq_iff, levels_eq_iff]
    rw [nameLevels, nameLevels, List.length_map, List.length_map]
    exact aligned

/-- A tag value with a dot adds no level, and hides what it was. -/
theorem twins_share_their_levels :
    let id : MeterId := ⟨"jvm.memory used", .ofList [("pool", "eden/a")]⟩
    let other : MeterId := ⟨"jvm.memory_used", .ofList [("pool", "eden.a")]⟩
    id ≠ other ∧
      (Text.splitOn '.' id.name.toList).length = (Text.splitOn '.' other.name.toList).length ∧
      name id .value = name other .value ∧ SamePlace id .value other .value := by
  intro id other
  have aligned : (Text.splitOn '.' id.name.toList).length =
      (Text.splitOn '.' other.name.toList).length := by decide
  have same : name id .value = name other .value := by decide +kernel
  exact ⟨by decide, aligned, same, ((name_keeps_levels id .value).2.2 other .value aligned).mp same⟩

/-- With more levels of its own, a meter's name can look like the tags of another. -/
example : name ⟨"http.method.GET", .empty⟩ .count = name ⟨"http", .ofList [("method", "GET")]⟩ .count := by
  decide +kernel

end Telemetry.Path
