import Telemetry.Proofs.OrderedMap
import Telemetry.Tags

/-! Tag sets, key by key: what is put into one, and what two of them come to when they are merged. A
key has the value that was given to it last. -/
namespace Telemetry.Tags
variable {pairs : List (String × String)} {key value : String}

/-- The last value that a list gives a key wins over what the set had. Ascending lists give one. -/
theorem get?_insertAll (tags : Tags) {pairs : List (String × String)}
    (ascending : pairs.Pairwise fun a b => compare a.1 b.1 = .lt) (key : String) :
    (tags.insertAll pairs).get? key = (OrderedMap.lookup key pairs).or (tags.get? key) := by
  induction pairs generalizing tags with
  | nil => rfl
  | cons head rest ih =>
    obtain ⟨headBelow, restAscending⟩ := List.pairwise_cons.mp ascending
    have tail := ih (tags.insert head.1 head.2) restAscending
    rw [insertAll, List.foldl_cons, ← insertAll, tail, OrderedMap.lookup]
    by_cases atHead : key = head.1
    · subst atHead
      rw [OrderedMap.lookup_eq_none_of_above headBelow]
      simp
    · rw [OrderedMap.get?_insert_of_ne _ _ atHead,
        if_neg (fun same => atHead (Std.LawfulEqOrd.eq_of_compare same))]

/-- A key of both sets has its value from the second one. -/
theorem get?_merge (tags other : Tags) (key : String) :
    (tags.merge other).get? key = (other.get? key).or (tags.get? key) :=
  get?_insertAll tags other.ascending key

/-- The empty set adds nothing below another one. -/
theorem empty_merge (tags : Tags) : merge .empty tags = tags :=
  OrderedMap.ext_get? fun key => by rw [get?_merge, OrderedMap.get?_empty, Option.or_none]

/-! ## Any pairs -/

/-- A list of pairs gives a key a value, and nothing behind it gives the key another one. -/
def LastGives (pairs : List (String × String)) (key value : String) : Prop :=
  ∃ earlier later, pairs = earlier ++ (key, value) :: later ∧ ∀ pair ∈ later, pair.1 ≠ key

/-- Either some value of a key is the last, or the key has none. -/
theorem lastGives_or_unnamed (pairs : List (String × String)) (key : String) :
    (∃ value, LastGives pairs key value) ∨ ∀ pair ∈ pairs, pair.1 ≠ key := by
  induction pairs with
  | nil => exact .inr (List.forall_mem_nil _)
  | cons head rest ih =>
    rcases ih with ⟨value, earlier, later, rfl, unnamed⟩ | unnamed
    · exact .inl ⟨value, head :: earlier, later, rfl, unnamed⟩
    · by_cases own : head.1 = key
      · exact .inl ⟨head.2, [], rest, by rw [← own]; rfl, unnamed⟩
      · exact .inr (List.forall_mem_cons.mpr ⟨own, unnamed⟩)

private theorem insertAll_append (tags : Tags) (first second : List (String × String)) :
    tags.insertAll (first ++ second) = (tags.insertAll first).insertAll second :=
  List.foldl_append

private theorem get?_insertAll_of_unnamed (tags : Tags) (unnamed : ∀ pair ∈ pairs, pair.1 ≠ key) :
    (tags.insertAll pairs).get? key = tags.get? key := by
  induction pairs generalizing tags with
  | nil => rfl
  | cons head rest ih =>
    obtain ⟨apart, unnamedLater⟩ := List.forall_mem_cons.mp unnamed
    exact (ih _ unnamedLater).trans (OrderedMap.get?_insert_of_ne _ _ apart.symm)

private theorem get?_insertAll_of_lastGives (tags : Tags) (gives : LastGives pairs key value) :
    (tags.insertAll pairs).get? key = some value := by
  obtain ⟨earlier, later, rfl, unnamed⟩ := gives
  rw [insertAll_append]
  exact (get?_insertAll_of_unnamed _ unnamed).trans (OrderedMap.get?_insert_self _ _ _)

/-- The set of a list has for each key the value that the list gives it last. -/
theorem get?_ofList_eq_some_iff :
    (ofList pairs).get? key = some value ↔ LastGives pairs key value := by
  refine ⟨fun found => ?_, get?_insertAll_of_lastGives .empty⟩
  rcases lastGives_or_unnamed pairs key with ⟨other, gives⟩ | unnamed
  · rw [ofList, get?_insertAll_of_lastGives _ gives] at found
    cases found
    exact gives
  · rw [ofList, get?_insertAll_of_unnamed _ unnamed] at found
    cases found

theorem get?_ofList_eq_none_iff :
    (ofList pairs).get? key = none ↔ ∀ pair ∈ pairs, pair.1 ≠ key := by
  refine ⟨fun missing => ?_, get?_insertAll_of_unnamed .empty⟩
  rcases lastGives_or_unnamed pairs key with ⟨value, gives⟩ | unnamed
  · rw [ofList, get?_insertAll_of_lastGives _ gives] at missing
    cases missing
  · exact unnamed

/-- Putting a set over another one is putting the pairs in that it was made of. -/
theorem merge_ofList (tags : Tags) (pairs : List (String × String)) :
    tags.merge (ofList pairs) = tags.insertAll pairs := by
  refine OrderedMap.ext_get? fun key => ?_
  rw [get?_merge]
  rcases lastGives_or_unnamed pairs key with ⟨value, gives⟩ | unnamed
  · rw [get?_ofList_eq_some_iff.mpr gives, get?_insertAll_of_lastGives tags gives, Option.some_or]
  · rw [get?_ofList_eq_none_iff.mpr unnamed, get?_insertAll_of_unnamed tags unnamed,
      Option.none_or]

theorem ofList_append (first second : List (String × String)) :
    ofList (first ++ second) = (ofList first).merge (ofList second) := by
  rw [merge_ofList, ofList, insertAll_append, ofList]

/-- The tags of a set make up the set. -/
theorem ofList_entries (tags : Tags) : ofList tags.entries = tags := empty_merge tags

end Telemetry.Tags
