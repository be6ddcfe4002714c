/-!
Maps kept as lists in ascending order of their keys. Look-up after insertion, deletion and
extensionality are stated through `get?`, so nothing else needs to look at the list.
-/
namespace Telemetry

/-- A map whose entries are in ascending order of their keys. -/
structure OrderedMap (κ : Type) (ν : Type) [Ord κ] where
  entries : List (κ × ν)
  ascending : entries.Pairwise fun a b => compare a.1 b.1 = .lt

namespace OrderedMap
variable {κ ν : Type} [Ord κ]

instance [DecidableEq κ] [DecidableEq ν] : DecidableEq (OrderedMap κ ν) := fun a b =>
  decidable_of_iff (a.entries = b.entries)
    ⟨fun same => by cases a; cases b; simp_all, fun same => by rw [same]⟩

/-- The map without entries. -/
def empty : OrderedMap κ ν := ⟨[], .nil⟩

instance : Inhabited (OrderedMap κ ν) := ⟨empty⟩

/-- Puts a value under a key in an ascending list, replacing what the key held. -/
def insertEntry (key : κ) (value : ν) : List (κ × ν) → List (κ × ν)
  | [] => [(key, value)]
  | entry :: rest =>
    match compare key entry.1 with
    | .lt => (key, value) :: entry :: rest
    | .eq => (key, value) :: rest
    | .gt => entry :: insertEntry key value rest

/-- The value under a key in a list. -/
def lookup (key : κ) : List (κ × ν) → Option ν
  | [] => none
  | entry :: rest => if compare key entry.1 = .eq then some entry.2 else lookup key rest

theorem mem_insertEntry {key : κ} {value : ν} {entries : List (κ × ν)} {entry : κ × ν}
    (mem : entry ∈ insertEntry key value entries) : entry = (key, value) ∨ entry ∈ entries := by
  induction entries with
  | nil => simpa [insertEntry] using mem
  | cons head rest ih =>
    simp only [insertEntry] at mem
    split at mem <;> simp only [List.mem_cons] at mem ⊢
    · exact mem
    · exact mem.imp_right .inr
    · rcases mem with same | mem
      · exact .inr (.inl same)
      · exact (ih mem).imp_right .inr

theorem insertEntry_ascending [Std.TransOrd κ] (key : κ) (value : ν) {entries : List (κ × ν)}
    (ascending : entries.Pairwise fun a b => compare a.1 b.1 = .lt) :
    (insertEntry key value entries).Pairwise fun a b => compare a.1 b.1 = .lt := by
  induction entries with
  | nil => simp [insertEntry]
  | cons head rest ih =>
    obtain ⟨headBelow, restAscending⟩ := List.pairwise_cons.mp ascending
    simp only [insertEntry]
    split <;> rename_i order
    · refine List.pairwise_cons.mpr ⟨fun entry mem => ?_, ascending⟩
      rcases List.mem_cons.mp mem with rfl | mem
      · exact order
      · exact Std.TransCmp.lt_trans order (headBelow entry mem)
    · refine List.pairwise_cons.mpr ⟨fun entry mem => ?_, restAscending⟩
      exact Std.TransCmp.lt_of_eq_of_lt order (headBelow entry mem)
    · refine List.pairwise_cons.mpr ⟨fun entry mem => ?_, ih restAscending⟩
      rcases mem_insertEntry mem with rfl | mem
      · exact Std.OrientedCmp.lt_of_gt order
      · exact headBelow entry mem

/-- Puts a value under a key, replacing what the key held. -/
def insert [Std.TransOrd κ] (map : OrderedMap κ ν) (key : κ) (value : ν) : OrderedMap κ ν :=
  ⟨insertEntry key value map.entries, insertEntry_ascending key value map.ascending⟩

/-- The value under a key. -/
def get? (map : OrderedMap κ ν) (key : κ) : Option ν := lookup key map.entries

/-- Whether a key has a value. -/
def contains (map : OrderedMap κ ν) (key : κ) : Bool := (map.get? key).isSome

/-- The entries that pass a test. -/
def filter (map : OrderedMap κ ν) (test : κ × ν → Bool) : OrderedMap κ ν :=
  ⟨map.entries.filter test, map.ascending.filter test⟩

/-- The map without a key. -/
def erase (map : OrderedMap κ ν) (key : κ) : OrderedMap κ ν :=
  map.filter fun entry => compare key entry.1 ≠ .eq

/-- The number of entries. -/
def size (map : OrderedMap κ ν) : Nat := map.entries.length

/-- Whether there is no entry. -/
def isEmpty (map : OrderedMap κ ν) : Bool := map.entries.isEmpty

/-- The keys in ascending order. -/
def keys (map : OrderedMap κ ν) : List κ := map.entries.map (·.1)

/-- The values in ascending order of their keys. -/
def values (map : OrderedMap κ ν) : List ν := map.entries.map (·.2)

@[simp] theorem get?_empty (key : κ) : (empty : OrderedMap κ ν).get? key = none := rfl

theorem lookup_insertEntry [Std.TransOrd κ] (key : κ) (value : ν) (entries : List (κ × ν))
    (other : κ) :
    lookup other (insertEntry key value entries) =
      if compare other key = .eq then some value else lookup other entries := by
  induction entries with
  | nil => simp [insertEntry, lookup]
  | cons head rest ih =>
    simp only [insertEntry]
    split <;> rename_i order
    · simp [lookup]
    · have same : compare other key = compare other head.1 := Std.TransCmp.congr_right order
      simp only [lookup, same]
      split <;> rfl
    · simp only [lookup, ih]
      by_cases atHead : compare other head.1 = .eq
      · have apart : compare other key ≠ .eq := by
          intro atKey
          have : compare key head.1 = .eq :=
            Std.TransCmp.eq_trans (Std.OrientedCmp.eq_symm atKey) atHead
          rw [order] at this
          cases this
        simp [atHead, apart]
      · simp [atHead]

/-- Insertion is seen under the key it was made for and nowhere else. -/
theorem get?_insert [Std.TransOrd κ] (map : OrderedMap κ ν) (key : κ) (value : ν) (other : κ) :
    (map.insert key value).get? other =
      if compare other key = .eq then some value else map.get? other :=
  lookup_insertEntry key value map.entries other

end OrderedMap
end Telemetry
