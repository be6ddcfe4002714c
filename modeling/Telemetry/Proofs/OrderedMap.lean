import Telemetry.OrderedMap

/-! Ordered maps through their entries. The order of the entries makes each key occur once, so a
key looks up exactly the values that it is listed with. -/
namespace Telemetry.OrderedMap
variable {κ ν : Type} [Ord κ]

/-- The keys of a map ascend strictly. -/
theorem keys_ascending (map : OrderedMap κ ν) :
    map.keys.Pairwise fun a b => compare a b = .lt :=
  List.pairwise_map.mpr map.ascending

theorem lookup_eq_none_of_ne {key : κ} {entries : List (κ × ν)}
    (apart : ∀ entry ∈ entries, compare key entry.1 ≠ .eq) : lookup key entries = none := by
  induction entries with
  | nil => rfl
  | cons head rest ih =>
    rw [lookup, if_neg (apart head List.mem_cons_self)]
    exact ih fun entry member => apart entry (List.mem_cons_of_mem _ member)

theorem lookup_eq_none_of_above {entries : List (κ × ν)}
    (above : ∀ entry ∈ entries, compare key entry.1 = .lt) : lookup key entries = none := by
  refine lookup_eq_none_of_ne fun entry member same => ?_
  rw [above entry member] at same
  cases same

/-! ## Look-up by halving -/

section Halving
variable {key : κ} {entries above : List (κ × ν)} {middle : κ × ν}

/-- Looks a key up in an ascending list by halving: what stands in the middle says where to go on. -/
def bisect (key : κ) (entries : List (κ × ν)) : Option ν :=
  match _halved : entries.drop (entries.length / 2) with
  | [] => none
  | middle :: above =>
    match compare key middle.1 with
    | .lt => bisect key (entries.take (entries.length / 2))
    | .eq => some middle.2
    | .gt => bisect key above
termination_by entries.length
decreasing_by
  all_goals
    have lengths := congrArg List.length _halved
    rw [List.length_drop, List.length_cons] at lengths
  · rw [List.length_take]
    omega
  · omega

theorem lookup_append (key : κ) (first second : List (κ × ν)) :
    lookup key (first ++ second) = (lookup key first).or (lookup key second) := by
  induction first with
  | nil => rfl
  | cons head rest ih =>
    rw [List.cons_append, lookup, lookup, ih]
    split <;> rfl

/-- Any entry of an ascending list tells on which side of it a key can stand. -/
private theorem lookup_cut [Std.TransOrd κ]
    (ascending : entries.Pairwise fun a b => compare a.1 b.1 = .lt)
    (cut : entries.drop n = middle :: above) :
    lookup key entries =
      match compare key middle.1 with
      | .lt => lookup key (entries.take n)
      | .eq => some middle.2
      | .gt => lookup key above := by
  have parts : lookup key entries = (lookup key (entries.take n)).or (lookup key (middle :: above)) := by
    rw [← lookup_append, ← cut, List.take_append_drop]
  rw [← List.take_append_drop n entries, cut] at ascending
  obtain ⟨-, fromMiddle, belowMiddle⟩ := List.pairwise_append.mp ascending
  obtain ⟨middleBelow, -⟩ := List.pairwise_cons.mp fromMiddle
  rw [parts, lookup]
  cases order : compare key middle.1 with
  | lt =>
    have absent : lookup key above = none := lookup_eq_none_of_ne fun entry member same => by
      have later := Std.TransCmp.lt_trans order (middleBelow entry member)
      rw [same] at later
      cases later
    simp [absent]
  | eq =>
    have absent : lookup key (entries.take n) = none := lookup_eq_none_of_ne fun entry member same => by
      have earlier := belowMiddle entry member middle List.mem_cons_self
      rw [Std.TransCmp.eq_trans (Std.OrientedCmp.eq_symm same) order] at earlier
      cases earlier
    simp [absent]
  | gt =>
    have absent : lookup key (entries.take n) = none := lookup_eq_none_of_ne fun entry member same => by
      have earlier :=
        Std.TransCmp.lt_of_eq_of_lt same (belowMiddle entry member middle List.mem_cons_self)
      rw [order] at earlier
      cases earlier
    simp [absent]

/-- In an ascending list halving finds what going through the list does. -/
theorem bisect_eq_lookup [Std.TransOrd κ]
    (ascending : entries.Pairwise fun a b => compare a.1 b.1 = .lt) :
    bisect key entries = lookup key entries := by
  fun_induction bisect key entries with
  | case1 entries halved =>
    have short : entries.length ≤ entries.length / 2 := List.drop_eq_nil_iff.mp halved
    rw [List.eq_nil_of_length_eq_zero (by omega : entries.length = 0), lookup]
  | case2 entries middle above halved order ih =>
    rw [lookup_cut ascending halved, order]
    exact ih (ascending.sublist (List.take_sublist _ _))
  | case3 entries middle above halved order =>
    rw [lookup_cut ascending halved, order]
  | case4 entries middle above halved order ih =>
    rw [lookup_cut ascending halved, order]
    have behind : (middle :: above).Sublist entries := halved ▸ List.drop_sublist _ _
    exact ih (ascending.sublist ((List.sublist_cons_self _ _).trans behind))

theorem bisect_entries [Std.TransOrd κ] (map : OrderedMap κ ν) (key : κ) :
    bisect key map.entries = map.get? key :=
  bisect_eq_lookup map.ascending

end Halving

/-! ## Look-up and entries -/

variable [Std.LawfulEqOrd κ]

private theorem mem_of_lookup {entries : List (κ × ν)} (found : lookup key entries = some value) :
    (key, value) ∈ entries := by
  induction entries with
  | nil => cases found
  | cons head rest ih =>
    rw [lookup] at found
    split at found
    · rename_i atHead
      cases found
      rw [Std.LawfulEqOrd.eq_of_compare atHead]
      exact List.mem_cons_self
    · exact List.mem_cons_of_mem _ (ih found)

theorem mem_erase_iff (map : OrderedMap κ ν) :
    entry ∈ (map.erase key).entries ↔ entry ∈ map.entries ∧ entry.1 ≠ key := by
  simp only [erase, filter, List.mem_filter, ne_eq, decide_not, Bool.not_eq_true',
    decide_eq_false_iff_not, Std.LawfulEqCmp.compare_eq_iff_eq, and_congr_right_iff]
  exact fun _ => not_congr eq_comm

variable [Std.TransOrd κ]

private theorem lookup_of_mem {entries : List (κ × ν)}
    (ascending : entries.Pairwise fun a b => compare a.1 b.1 = .lt)
    (member : (key, value) ∈ entries) : lookup key entries = some value := by
  induction entries with
  | nil => cases member
  | cons head rest ih =>
    obtain ⟨headBelow, restAscending⟩ := List.pairwise_cons.mp ascending
    rcases List.mem_cons.mp member with rfl | member
    · simp [lookup]
    · have below := headBelow _ member
      have apart : compare key head.1 ≠ .eq := by
        intro same
        rw [Std.OrientedCmp.eq_symm same] at below
        cases below
      rw [lookup, if_neg apart]
      exact ih restAscending member

/-- Looking a key up finds exactly what it is listed with. -/
theorem get?_eq_some_iff (map : OrderedMap κ ν) :
    map.get? key = some value ↔ (key, value) ∈ map.entries :=
  ⟨mem_of_lookup, lookup_of_mem map.ascending⟩

/-- Lists that ascend strictly by some key are the same if they have the same members. -/
theorem eq_of_ascending {α : Type} {key : α → κ} {left right : List α}
    (leftAscends : left.Pairwise fun a b => compare (key a) (key b) = .lt)
    (rightAscends : right.Pairwise fun a b => compare (key a) (key b) = .lt)
    (same : ∀ a, a ∈ left ↔ a ∈ right) : left = right := by
  have nodup {list : List α} (ascends : list.Pairwise fun a b => compare (key a) (key b) = .lt) :
      list.Nodup :=
    ascends.imp fun below twice => by
      rw [twice, Std.ReflOrd.compare_self] at below
      cases below
  refine List.Perm.eq_of_pairwise ?_ leftAscends rightAscends
    ((List.perm_ext_iff_of_nodup (nodup leftAscends) (nodup rightAscends)).mpr same)
  intro a b _ _ below above
  rw [Std.OrientedCmp.gt_of_lt below] at above
  cases above

/-- Maps in which every key looks up the same are the same. -/
theorem ext_get? {left right : OrderedMap κ ν} (same : ∀ key, left.get? key = right.get? key) :
    left = right := by
  have entries : left.entries = right.entries := by
    refine eq_of_ascending left.ascending right.ascending ?_
    rintro ⟨key, value⟩
    rw [← get?_eq_some_iff, ← get?_eq_some_iff, same]
  cases left
  cases right
  cases entries
  rfl

@[simp] theorem get?_insert_self (map : OrderedMap κ ν) (key : κ) (value : ν) :
    (map.insert key value).get? key = some value := by
  simp [get?_insert]

theorem get?_insert_of_ne (map : OrderedMap κ ν) (value : ν) (apart : other ≠ key) :
    (map.insert key value).get? other = map.get? other := by
  rw [get?_insert, if_neg (fun same => apart (Std.LawfulEqOrd.eq_of_compare same))]

end Telemetry.OrderedMap

namespace Telemetry

/-- Strings are compared as they are ordered. -/
theorem compare_lt_iff {a b : String} : compare a b = .lt ↔ a < b := by
  change compareOfLessAndEq a b = .lt ↔ a < b
  unfold compareOfLessAndEq
  split
  · simp [*]
  · split <;> simp [*]

end Telemetry
