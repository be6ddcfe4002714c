import Telemetry.Proofs.OrderedMap

/-! Ordered maps kept as bare lists. A search by halving says where a key stands, or where it would
have to be put; a put writes there, a look-up reads there. Any answer that a search of an ascending
list may give does the same as going through the list, so the order that searches rely on is the order
that every put keeps. -/
namespace Telemetry.OrderedMap
variable {κ ν : Type} [Ord κ] {key : κ} {value : ν} {entries : List (κ × ν)}

/-- What a search for a key comes to: the place where the key stands, or the one where it is missing. -/
inductive Place where
  | found (index : Nat)
  | free (index : Nat)
deriving DecidableEq, Repr

namespace Place

/-- A place as it is counted when some entries are put in front. -/
def behind (front : Nat) : Place → Place
  | found index => found (front + index)
  | free index => free (front + index)

/-- A list with a value written at a place: over what stands there, or in between. -/
def write (entry : κ × ν) (entries : List (κ × ν)) : Place → List (κ × ν)
  | found index => entries.set index entry
  | free index => entries.take index ++ entry :: entries.drop index

/-- The value at a place. -/
def read? (entries : List (κ × ν)) : Place → Option ν
  | found index => entries[index]?.map (·.2)
  | free _ => none

end Place

/-- Searches an ascending list by halving (`slice::binary_search_by`): the entry in the middle says
where to go on. -/
def locate (key : κ) (entries : List (κ × ν)) : Place :=
  match _halved : entries.drop (entries.length / 2) with
  | [] => .free 0
  | middle :: above =>
    match compare middle.1 key with
    | .gt => locate key (entries.take (entries.length / 2))
    | .eq => .found (entries.length / 2)
    | .lt => (locate key above).behind (entries.length / 2 + 1)
termination_by entries.length
decreasing_by
  all_goals
    have lengths := congrArg List.length _halved
    rw [List.length_drop, List.length_cons] at lengths
  · rw [List.length_take]
    omega
  · omega

/-- Puts a value where a search says (`Tags::insert`). -/
def put (key : κ) (value : ν) (entries : List (κ × ν)) : List (κ × ν) :=
  (locate key entries).write (key, value) entries

/-- The value where a search says (`Tags::get`). -/
def seek (key : κ) (entries : List (κ × ν)) : Option ν := (locate key entries).read? entries

/-- What a search may answer: a place where the key stands, or the place where everything in front
is below it and everything behind is above. -/
inductive Answers (key : κ) : List (κ × ν) → Place → Prop where
  | found (front : List (κ × ν)) {entry : κ × ν} (back : List (κ × ν))
      (same : compare entry.1 key = .eq) :
      Answers key (front ++ entry :: back) (.found front.length)
  | free (front back : List (κ × ν)) (below : ∀ entry ∈ front, compare entry.1 key = .lt)
      (above : ∀ entry ∈ back, compare entry.1 key = .gt) :
      Answers key (front ++ back) (.free front.length)

theorem Answers.behind {front : List (κ × ν)} {place : Place}
    (below : ∀ entry ∈ front, compare entry.1 key = .lt) (answers : Answers key entries place) :
    Answers key (front ++ entries) (place.behind front.length) := by
  cases answers with
  | found before back same =>
    rw [← List.append_assoc]
    have shifted : Answers key _ _ := .found (front ++ before) back same
    rwa [List.length_append] at shifted
  | free before back belowBefore above =>
    rw [← List.append_assoc]
    have shifted : Answers key _ _ :=
      .free (front ++ before) back (List.forall_mem_append.mpr ⟨below, belowBefore⟩) above
    rwa [List.length_append] at shifted

theorem Answers.inFront {back : List (κ × ν)} {place : Place}
    (above : ∀ entry ∈ back, compare entry.1 key = .gt) (answers : Answers key entries place) :
    Answers key (entries ++ back) place := by
  cases answers with
  | found front rest same =>
    rw [List.append_assoc, List.cons_append]
    exact .found front _ same
  | free front rest below aboveRest =>
    rw [List.append_assoc]
    exact .free front _ below (List.forall_mem_append.mpr ⟨aboveRest, above⟩)

private theorem insertEntry_append {front : List (κ × ν)} [Std.OrientedOrd κ]
    (below : ∀ entry ∈ front, compare entry.1 key = .lt) (value : ν) (back : List (κ × ν)) :
    insertEntry key value (front ++ back) = front ++ insertEntry key value back := by
  induction front with
  | nil => rfl
  | cons head rest ih =>
    obtain ⟨headBelow, restBelow⟩ := List.forall_mem_cons.mp below
    rw [List.cons_append, insertEntry, Std.OrientedCmp.gt_of_lt headBelow]
    exact congrArg (head :: ·) (ih restBelow)

private theorem insertEntry_of_above [Std.OrientedOrd κ]
    (above : ∀ entry ∈ entries, compare entry.1 key = .gt) (value : ν) :
    insertEntry key value entries = (key, value) :: entries := by
  cases entries with
  | nil => rfl
  | cons head rest =>
    rw [insertEntry, Std.OrientedCmp.lt_of_gt (above head List.mem_cons_self)]

private theorem take_append_of_drop_eq {α : Type} {n : Nat} {whole rest : List α}
    (cut : whole.drop n = rest) : whole.take n ++ rest = whole := by
  rw [← cut, List.take_append_drop]

variable [Std.TransOrd κ]

/-- In an ascending list everything in front of a key is below it. -/
theorem below_of_same {front back : List (κ × ν)} {middle : κ × ν}
    (ascending : (front ++ middle :: back).Pairwise fun a b => compare a.1 b.1 = .lt)
    (same : compare middle.1 key = .eq) : ∀ entry ∈ front, compare entry.1 key = .lt :=
  fun entry member => Std.TransCmp.lt_of_lt_of_eq
    ((List.pairwise_append.mp ascending).2.2 entry member middle List.mem_cons_self) same

/-- Halving gives an answer that a search may give. -/
theorem locate_answers (ascending : entries.Pairwise fun a b => compare a.1 b.1 = .lt) :
    Answers key entries (locate key entries) := by
  fun_induction locate key entries with
  | case1 entries halved =>
    have short : entries.length ≤ entries.length / 2 := List.drop_eq_nil_iff.mp halved
    rw [List.eq_nil_of_length_eq_zero (by omega : entries.length = 0)]
    exact .free [] [] (List.forall_mem_nil _) (List.forall_mem_nil _)
  | case2 entries middle above halved order ih =>
    have parts := take_append_of_drop_eq halved
    rw [← parts] at ascending
    obtain ⟨lower, upper, -⟩ := List.pairwise_append.mp ascending
    have beyond : ∀ entry ∈ middle :: above, compare entry.1 key = .gt :=
      List.forall_mem_cons.mpr ⟨order, fun entry member => Std.TransCmp.gt_trans
        (Std.OrientedCmp.gt_of_lt ((List.pairwise_cons.mp upper).1 entry member)) order⟩
    have whole := (ih lower).inFront beyond
    rwa [parts] at whole
  | case3 entries middle above halved order =>
    have parts := take_append_of_drop_eq halved
    have whole := Answers.found (entries.take (entries.length / 2)) above order
    rwa [parts, List.length_take_of_le (Nat.div_le_self _ _)] at whole
  | case4 entries middle above halved order ih =>
    have parts := take_append_of_drop_eq halved
    rw [List.append_cons] at parts
    rw [← parts] at ascending
    obtain ⟨lower, upper, -⟩ := List.pairwise_append.mp ascending
    have passed : ∀ entry ∈ entries.take (entries.length / 2) ++ [middle],
        compare entry.1 key = .lt := by
      refine List.forall_mem_append.mpr ⟨fun entry member => ?_, List.forall_mem_singleton.mpr order⟩
      exact Std.TransCmp.lt_trans
        ((List.pairwise_append.mp lower).2.2 entry member middle List.mem_cons_self) order
    have whole := (ih upper).behind passed
    rwa [parts, List.length_append, List.length_take_of_le (Nat.div_le_self _ _)] at whole

/-- Whatever a search of an ascending list answers, writing there is putting the value into the map. -/
theorem Answers.write_eq {place : Place} (answers : Answers key entries place)
    (ascending : entries.Pairwise fun a b => compare a.1 b.1 = .lt) (value : ν) :
    place.write (key, value) entries = insertEntry key value entries := by
  cases answers with
  | @found front middle back same =>
    rw [insertEntry_append (below_of_same ascending same), insertEntry, Std.OrientedCmp.eq_symm same,
      Place.write, List.set_append_right _ _ (Nat.le_refl _), Nat.sub_self, List.set_cons_zero]
  | free front back below above =>
    rw [insertEntry_append below, insertEntry_of_above above, Place.write, List.take_left,
      List.drop_left]

/-- Whatever a search of an ascending list answers, reading there is looking the key up. -/
theorem Answers.read?_eq {place : Place} (answers : Answers key entries place)
    (ascending : entries.Pairwise fun a b => compare a.1 b.1 = .lt) :
    place.read? entries = lookup key entries := by
  have missed {passed : List (κ × ν)} (below : ∀ entry ∈ passed, compare entry.1 key = .lt) :
      lookup key passed = none := lookup_eq_none_of_ne fun entry member same => by
    have apart := below entry member
    rw [Std.OrientedCmp.eq_symm same] at apart
    cases apart
  cases answers with
  | @found front middle back same =>
    rw [lookup_append, missed (below_of_same ascending same), Option.none_or, lookup,
      if_pos (Std.OrientedCmp.eq_symm same), Place.read?, List.getElem?_append_right (Nat.le_refl _),
      Nat.sub_self, List.getElem?_cons_zero, Option.map_some]
  | free front back below above =>
    have beyond : lookup key back = none :=
      lookup_eq_none_of_above fun entry member => Std.OrientedCmp.lt_of_gt (above entry member)
    rw [lookup_append, missed below, beyond, Place.read?, Option.or_none]

/-- On the list of a map, putting by halving is insertion. -/
theorem put_entries (map : OrderedMap κ ν) (key : κ) (value : ν) :
    put key value map.entries = (map.insert key value).entries :=
  (locate_answers map.ascending).write_eq map.ascending value

/-- On the list of a map, seeking by halving is look-up. -/
theorem seek_entries (map : OrderedMap κ ν) (key : κ) : seek key map.entries = map.get? key :=
  (locate_answers map.ascending).read?_eq map.ascending

end Telemetry.OrderedMap
