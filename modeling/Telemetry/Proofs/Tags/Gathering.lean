import Mathlib.Tactic.TFAE
import Telemetry.Proofs.Tags
import Telemetry.Proofs.Tags.Hashing
import Telemetry.Proofs.Tags.Vector

/-! Tag sets are sorted maps. However a set was made, its tags stand in a list that ascends strictly by
the keys. Every place for a tag is found by halving that list, which is right because the list ascends,
and it goes on ascending because the place is right. So a set is known by what its keys look up, and the
order in which the tags came leaves no trace. -/
namespace Telemetry.Tags

/-- How a tag set is made: from pairs, by one more tag, or from two sets. -/
inductive Making where
  | empty
  | ofList (pairs : List (String × String))
  | insert (making : Making) (key value : String)
  | merge (making other : Making)

/-- Puts pairs into a bare list, each where a search says. -/
def putAll (vector pairs : List (String × String)) : List (String × String) :=
  pairs.foldl (fun vector pair => OrderedMap.put pair.1 pair.2 vector) vector

namespace Making

/-- The tag set that is made. -/
def tags : Making → Tags
  | empty => .empty
  | ofList pairs => .ofList pairs
  | insert making key value => making.tags.insert key value
  | merge making other => making.tags.merge other.tags

/-- What is made when tags are kept in a bare list, and nothing but searches keeps them in order. -/
def vector : Making → List (String × String)
  | empty => []
  | ofList pairs => putAll [] pairs
  | insert making key value => OrderedMap.put key value making.vector
  | merge making other => putAll making.vector other.vector

/-- The pairs that went into a set, in the order in which they did. -/
def given : Making → List (String × String)
  | empty => []
  | ofList pairs => pairs
  | insert making key value => making.given ++ [(key, value)]
  | merge making other => making.given ++ other.given

end Making

variable {making left right : Making}

private theorem putAll_entries (tags : Tags) (pairs : List (String × String)) :
    putAll tags.entries pairs = (tags.insertAll pairs).entries := by
  induction pairs generalizing tags with
  | nil => rfl
  | cons pair rest ih =>
    rw [putAll, List.foldl_cons, OrderedMap.put_entries]
    exact ih _

/-- The bare list is the one that is kept in order. -/
theorem Making.vector_eq (making : Making) : making.vector = making.tags.entries := by
  induction making with
  | empty => rfl
  | ofList pairs => exact putAll_entries .empty pairs
  | insert making key value ih => rw [vector, ih, OrderedMap.put_entries, tags]
  | merge making other ih ihOther => rw [vector, ih, ihOther, putAll_entries, tags, Tags.merge]

/-- However a set is made, it is the set of the pairs that went into it. -/
theorem Making.tags_eq (making : Making) : making.tags = Tags.ofList making.given := by
  induction making with
  | empty => rfl
  | ofList pairs => rfl
  | insert making key value ih =>
    rw [tags, ih, given, ofList_append, merge_ofList]
    rfl
  | merge making other ih ihOther => rw [tags, ih, ihOther, given, ofList_append]

/-- **Tag sets are sorted maps.** However a set is made, its list ascends strictly by the keys, each
key looks up what was given to it last, and nothing if it was given nothing; one more tag changes what
no other key looks up. So whatever the order in which the tags came, two sets are equal exactly if they
compare as equal, exactly if everything that hashes them gets the same of both, and exactly if every
key looks up the same in them; the bytes alone that they are hashed by tell different sets apart. -/
theorem tag_sets_are_sorted_maps :
    (∀ making : Making,
      making.vector = making.tags.entries ∧
      (making.vector.Pairwise fun a b => a.1 < b.1) ∧
      (∀ key, OrderedMap.seek key making.vector = making.tags.get? key) ∧
      (∀ key value, making.tags.get? key = some value ↔ LastGives making.given key value) ∧
      (∀ key, making.tags.get? key = none ↔ ∀ pair ∈ making.given, pair.1 ≠ key) ∧
      ∀ key value other, other ≠ key →
        (making.insert key value).tags.get? other = making.tags.get? other) ∧
    ∀ left right : Making, [
      ∀ key, left.tags.get? key = right.tags.get? key,
      left.tags = right.tags,
      compare left.tags right.tags = .eq,
      ∀ hash : List (List UInt8) → UInt64, hash left.tags.pieces = hash right.tags.pieces,
      left.tags.pieces.flatten = right.tags.pieces.flatten].TFAE := by
  constructor
  · intro making
    have listed := making.vector_eq
    have made := making.tags_eq
    refine ⟨listed, ?_, fun key => ?_, fun key value => ?_, fun key => ?_, ?_⟩
    · rw [listed]
      exact making.tags.ascending.imp compare_lt_iff.mp
    · rw [listed, OrderedMap.seek_entries]
    · rw [made, get?_ofList_eq_some_iff]
    · rw [made, get?_ofList_eq_none_iff]
    · exact fun key value other apart => OrderedMap.get?_insert_of_ne _ value apart
  · intro left right
    tfae_have 1 → 2 := OrderedMap.ext_get?
    tfae_have 2 → 3 := fun same => by rw [same, Std.ReflOrd.compare_self]
    tfae_have 3 → 2 := Std.LawfulEqOrd.eq_of_compare
    tfae_have 2 → 4 := fun same hash => by rw [same]
    tfae_have 4 → 5 := fun alike => by
      have told := alike fun pieces => if pieces = left.tags.pieces then 1 else 0
      rw [if_pos rfl] at told
      split at told
      · rename_i same
        rw [same]
      · cases told
    tfae_have 5 → 1 := fun same key => by rw [eq_of_bytes same]
    tfae_finish

/-- The same three tags, collected at once with one of them twice, and by one insertion and a merge in
another order: the sets and their hashes are the same, and a further tag leaves the others alone. -/
theorem order_of_tags_leaves_no_trace :
    let left : Making :=
      .ofList [("uri", "/a"), ("status", "500"), ("method", "GET"), ("status", "200")]
    let right : Making :=
      .merge (.insert .empty "status" "200") (.ofList [("method", "GET"), ("uri", "/a")])
    left.given ≠ right.given ∧ left.tags = right.tags ∧ left.vector = right.vector ∧
      (∀ hash : List (List UInt8) → UInt64, hash left.tags.pieces = hash right.tags.pieces) ∧
      right.tags.get? "status" = some "200" ∧
      (left.insert "region" "eu").tags.get? "status" = some "200" := by
  intro left right
  obtain ⟨sorted, alike⟩ := tag_sets_are_sorted_maps
  have same : left.tags = right.tags := ((alike left right).out 1 2).mpr (by decide +kernel)
  have last : right.tags.get? "status" = some "200" :=
    ((sorted right).2.2.2.1 "status" "200").mpr
      ⟨[], [("method", "GET"), ("uri", "/a")], rfl, by decide⟩
  refine ⟨by decide, same, ?_, ((alike left right).out 1 3).mp same, last, ?_⟩
  · rw [(sorted left).1, (sorted right).1, same]
  · rw [(sorted left).2.2.2.2.2 "region" "eu" "status" (by decide), same, last]

end Telemetry.Tags
