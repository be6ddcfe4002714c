import Telemetry.OrderedMap
/-!
Tag sets: one value for each key, in ascending order of the keys. Merging lets the right-hand side
win, so layers of tags can be put on top of one another.
-/
namespace Telemetry

/-- A set of tags: every key has one value. -/
abbrev Tags := OrderedMap String String

namespace Tags

/-- Puts the tags of a list into a set, one after the other. -/
def insertAll (tags : Tags) (pairs : List (String × String)) : Tags :=
  pairs.foldl (fun tags pair => tags.insert pair.1 pair.2) tags

/-- The tag set of a list of pairs, where a later value of a key replaces an earlier one
(`Tags::of`). -/
def ofList (pairs : List (String × String)) : Tags := insertAll OrderedMap.empty pairs

/-- Both sets together (`Tags::and_tags`); a key of both has its value from `other`. -/
def merge (tags other : Tags) : Tags := tags.insertAll other.entries

/-- Whether every tag of `other` is there with the same value (`Tags::contains_all`). -/
def containsAll (tags other : Tags) : Bool :=
  other.entries.all fun pair => tags.get? pair.1 = some pair.2

/-- One tag as `key=value`. -/
def pairText (pair : String × String) : String := pair.1 ++ "=" ++ pair.2

/-- The tags as `key=value` with commas between, in braces (`Tags::fmt`). -/
def text (tags : Tags) : String :=
  "\x7b" ++ ",".intercalate (tags.entries.map pairText) ++ "\x7d"

/-- Tags are ordered by key, then by value. -/
def comparePair : String × String → String × String → Ordering :=
  compareLex (compareOn Prod.fst) (compareOn Prod.snd)

/-- Tag sets are ordered as lists. -/
instance : Ord Tags := ⟨fun a b => List.compareLex comparePair a.entries b.entries⟩

instance : Std.TransCmp comparePair := inferInstanceAs (Std.TransCmp (compareLex _ _))

instance : Std.LawfulEqCmp comparePair where
  compare_self := Std.ReflCmp.compare_self
  eq_of_compare {a b} same := by
    simp only [comparePair, compareLex, Ordering.then_eq_eq, compareOn] at same
    exact Prod.ext (Std.LawfulEqOrd.eq_of_compare same.1) (Std.LawfulEqOrd.eq_of_compare same.2)

instance : Std.TransOrd Tags where
  eq_swap {a b} := by
    have : Std.OrientedCmp (List.compareLex comparePair) := inferInstance
    exact this.eq_swap
  isLE_trans {a b c} := by
    have : Std.TransCmp (List.compareLex comparePair) := inferInstance
    exact this.isLE_trans

instance : Std.LawfulEqOrd Tags where
  compare_self {a} := by
    have : Std.ReflCmp (List.compareLex comparePair) := inferInstance
    exact this.compare_self
  eq_of_compare {a b} same := by
    have lawful : Std.LawfulEqCmp (List.compareLex comparePair) := inferInstance
    have : a.entries = b.entries := lawful.eq_of_compare same
    cases a; cases b; simp_all

end Tags
end Telemetry
