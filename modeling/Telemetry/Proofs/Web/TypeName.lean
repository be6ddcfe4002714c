import Telemetry.Web.TypeName

/-! How short names of types are found. Each turn looks through one owning pointer, and a pointer takes
at least four characters, so the turns come to an end on every text. The name is cut out by the marks
that stand around names, so none of them is in it. -/
namespace Telemetry.TypeName
variable {c : Char} {turns others : Nat} {path name other inner fullName : List Char}

/-- What a turn looks at: a text without white space around it and without the mark of a trait object
in front. -/
def bare (fullName : List Char) : List Char := stripDyn (Text.trim fullName)

/-- The turns of `simple_type_name` end on a text, with a name, once so many pointers are looked
through. -/
inductive Ends : List Char → Nat → List Char → Prop where
  | here {fullName : List Char} (last : pointee? (bare fullName) = none) :
      Ends fullName 0 (pathName (bare fullName))
  | through {fullName inner name : List Char} {turns : Nat}
      (pointer : pointee? (bare fullName) = some inner) (rest : Ends inner turns name) :
      Ends fullName (turns + 1) name

private theorem simple_of_here (last : pointee? (bare fullName) = none) :
    simple fullName = pathName (bare fullName) := by
  rw [bare] at last
  rw [simple]
  split
  · rename_i inner found
    rw [last] at found
    cases found
  · rfl

private theorem simple_of_pointer (pointer : pointee? (bare fullName) = some inner) :
    simple fullName = simple inner := by
  rw [bare] at pointer
  rw [simple]
  split
  · rename_i found
    rw [pointer] at found
    cases found
    rfl
  · rename_i found
    rw [pointer] at found
    cases found

theorem Ends.simple_eq (ends : Ends fullName turns name) : simple fullName = name := by
  induction ends with
  | here last => exact simple_of_here last
  | through pointer _ ih => rw [simple_of_pointer pointer, ih]

/-- Every turn says what the next one looks at. -/
theorem Ends.turns_unique (first : Ends fullName turns name) (second : Ends fullName others other) :
    others = turns := by
  induction first generalizing others with
  | here last =>
    cases second with
    | here => rfl
    | through pointer => rw [last] at pointer; cases pointer
  | through pointer _ ih =>
    cases second with
    | here last => rw [pointer] at last; cases last
    | through again rest =>
      rw [pointer] at again
      cases again
      rw [ih rest]

/-! ## The length of a turn -/

private theorem length_untilColons_le (path : List Char) :
    (untilColons path).length ≤ path.length := by
  fun_induction untilColons path with
  | case1 => exact Nat.le_refl 0
  | case2 rest => exact Nat.zero_le _
  | case3 c rest apart ih => exact Nat.succ_le_succ ih

private theorem length_pathName_le (name : List Char) :
    (pathName name).length ≤ (name.takeWhile (!endsPath ·)).length := by
  rw [pathName, lastSegment, List.length_reverse]
  refine Nat.le_trans (length_untilColons_le _) ?_
  simpa [Text.trimEnd] using (List.dropWhile_sublist (l := (name.takeWhile _).reverse) _).length_le

theorem inBrackets?_eq_some_iff {text : List Char} :
    inBrackets? text = some inner ↔ text = '<' :: (inner ++ ['>']) := by
  constructor
  · intro found
    unfold inBrackets? at found
    split at found
    · rename_i rest
      split at found
      · rename_i closed
        obtain ⟨front, rfl⟩ := List.getLast?_eq_some_iff.mp closed
        rw [List.dropLast_concat] at found
        cases found
        rfl
      · cases found
    · cases found
  · rintro rfl
    simp [inBrackets?]

theorem pointee?_eq_some_iff : pointee? name = some inner ↔
    pathName name ∈ pointers ∧ name.dropWhile (!endsPath ·) = '<' :: (inner ++ ['>']) := by
  rw [pointee?, ← inBrackets?_eq_some_iff, ← List.contains_iff_mem]
  split
  · rename_i isPointer
    exact (and_iff_right isPointer).symm
  · rename_i notPointer
    exact ⟨(nomatch ·), fun ⟨isPointer, _⟩ => absurd isPointer notPointer⟩

/-- A pointer has at least two letters, and there is a bracket on either side of what it points to. -/
private theorem add_four_le_of_pointee? (pointer : pointee? name = some inner) :
    inner.length + 4 ≤ name.length := by
  obtain ⟨isPointer, brackets⟩ := pointee?_eq_some_iff.mp pointer
  have letters : ∀ pointer ∈ pointers, 2 ≤ pointer.length := by decide
  have own := letters _ isPointer
  have named := length_pathName_le name
  have both := congrArg List.length (List.takeWhile_append_dropWhile (p := (!endsPath ·)) (l := name))
  rw [brackets, List.length_append, List.length_cons, List.length_append, List.length_singleton] at both
  omega

private theorem length_bare_le (fullName : List Char) : (bare fullName).length ≤ fullName.length :=
  Nat.le_trans (length_stripDyn_le _) (length_trim_le fullName)

/-- The turns end on every text. -/
theorem exists_ends (fullName : List Char) :
    ∃ turns, Ends fullName turns (simple fullName) ∧ 4 * turns ≤ fullName.length := by
  induction fullName using simple.induct with
  | case1 fullName name inner pointer ih =>
    obtain ⟨turns, ends, few⟩ := ih
    refine ⟨turns + 1, ?_, ?_⟩
    · rw [simple_of_pointer pointer]
      exact .through pointer ends
    · have shorter : inner.length + 4 ≤ (bare fullName).length := add_four_le_of_pointee? pointer
      have := length_bare_le fullName
      omega
  | case2 fullName name last =>
    refine ⟨0, ?_, Nat.zero_le _⟩
    rw [simple_of_here last]
    exact .here last

/-! ## The marks around a name -/

private theorem mem_of_mem_untilColons (member : c ∈ untilColons path) : c ∈ path := by
  fun_induction untilColons path with
  | case1 => exact member
  | case2 rest => cases member
  | case3 first rest apart ih =>
    rcases List.mem_cons.mp member with rfl | later
    · exact List.mem_cons_self
    · exact List.mem_cons_of_mem _ (ih later)

private theorem head?_untilColons (first : (untilColons path).head? = some c) :
    path.head? = some c := by
  unfold untilColons at first
  split at first
  · exact first
  · cases first
  · exact first

private theorem not_colons_infix_untilColons (path : List Char) :
    ¬ [':', ':'] <:+: untilColons path := by
  fun_induction untilColons path with
  | case1 => simp
  | case2 rest => simp
  | case3 first rest apart ih =>
    rw [List.infix_cons_iff, not_or]
    refine ⟨?_, ih⟩
    -- A pair in front would have been where the text is cut.
    intro colons
    obtain ⟨rfl, more⟩ := List.cons_prefix_cons.mp colons
    obtain ⟨tail, split⟩ := more
    have second : rest.head? = some ':' := head?_untilColons (by rw [← split]; rfl)
    obtain ⟨tail, rfl⟩ := List.head?_eq_some_iff.mp second
    exact apart tail rfl rfl

private theorem not_colons_infix_lastSegment (path : List Char) :
    ¬ [':', ':'] <:+: lastSegment path := by
  intro colons
  have reversed : [':', ':'].reverse <:+: (lastSegment path).reverse := List.reverse_infix.mpr colons
  rw [lastSegment, List.reverse_reverse] at reversed
  exact not_colons_infix_untilColons _ reversed

private theorem mem_of_mem_lastSegment (member : c ∈ lastSegment path) : c ∈ path := by
  rw [lastSegment, List.mem_reverse] at member
  exact List.mem_reverse.mp (mem_of_mem_untilColons member)

private theorem not_endsPath_of_mem_pathName (member : c ∈ pathName name) : endsPath c = false := by
  have inHead : c ∈ name.takeWhile (!endsPath ·) := by
    have cut := mem_of_mem_lastSegment member
    rw [Text.trimEnd, List.mem_reverse] at cut
    exact List.mem_reverse.mp ((List.dropWhile_sublist _).subset cut)
  simpa using List.all_eq_true.mp List.all_takeWhile c inHead

/-- No mark that stands around names is in a short name. -/
theorem Ends.free (ends : Ends fullName turns name) :
    (∀ c ∈ name, endsPath c = false) ∧ ¬ [':', ':'] <:+: name := by
  induction ends with
  | here last => exact ⟨fun c => not_endsPath_of_mem_pathName, not_colons_infix_lastSegment _⟩
  | through _ _ ih => exact ih

end Telemetry.TypeName
