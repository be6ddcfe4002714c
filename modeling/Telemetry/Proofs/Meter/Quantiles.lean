import Mathlib.Data.List.Sort
import Telemetry.Proofs.Binary64.Order
import Telemetry.Proofs.Meter.Timings

/-! The quantiles of a timer. They are numbers from zero to one, and since they are put in order before
the repeated ones are left out, each of them is below the next. Each value from zero to one that a timer
is asked for is kept once, so nothing but these values matters to what it keeps. -/
namespace Telemetry
open Binary64

private theorem dropRepeats_sublist (qs : List Binary64) : (dropRepeats qs).Sublist qs := by
  fun_induction dropRepeats qs with
  | case1 => exact .slnil
  | case2 q => exact List.Sublist.refl _
  | case3 q next rest same ih => exact ih.trans (.cons_cons q (List.sublist_cons_self next rest))
  | case4 q next rest apart ih => exact .cons_cons q ih

/-- What is in order and has its repetitions left out ascends. -/
theorem dropRepeats_ascending {qs : List Binary64} (ordered : qs.Pairwise fun a b => a.le b = true) :
    (dropRepeats qs).Pairwise Below := by
  fun_induction dropRepeats qs with
  | case1 => exact .nil
  | case2 q => exact List.pairwise_singleton _ _
  | case3 q next rest same ih =>
    exact ih (ordered.sublist (.cons_cons q (List.sublist_cons_self next rest)))
  | case4 q next rest apart ih =>
    obtain ⟨first, later⟩ := List.pairwise_cons.mp ordered
    refine List.pairwise_cons.mpr ⟨?_, ih later⟩
    intro other member
    have below : Below q next := below_of_le (first next List.mem_cons_self) apart
    rcases List.mem_cons.mp ((dropRepeats_sublist _).subset member) with rfl | behind
    · exact below
    · exact below.trans_le ((List.pairwise_cons.mp later).1 other behind)

/-- The quantiles that a timer keeps are from zero to one and were asked for. -/
theorem mem_normalQuantiles {asked : List Binary64} {q : Binary64}
    (member : q ∈ normalQuantiles asked) :
    q ∈ asked ∧ Binary64.zero.le q = true ∧ q.le .one = true := by
  have kept := (dropRepeats_sublist _).subset member
  rw [List.mem_mergeSort, List.mem_filter, Bool.and_eq_true] at kept
  exact kept

theorem normalQuantiles_ascending (asked : List Binary64) :
    (normalQuantiles asked).Pairwise Below := by
  apply dropRepeats_ascending
  refine (List.pairwise_mergeSort placedBefore_trans placedBefore_total _).imp_of_mem ?_
  intro a b first second before
  rw [List.mem_mergeSort, List.mem_filter, Bool.and_eq_true] at first second
  obtain ⟨_, x, -, left, -⟩ := le_iff.mp first.2.1
  obtain ⟨_, y, -, right, -⟩ := le_iff.mp second.2.1
  exact le_of_placedBefore left right before

private theorem dropRepeats_eq_self {qs : List Binary64}
    (apart : qs.Pairwise fun a b => ¬ a.sameValue b = true) : dropRepeats qs = qs := by
  fun_induction dropRepeats qs with
  | case1 => rfl
  | case2 q => rfl
  | case3 q next rest same ih =>
    exact absurd same ((List.pairwise_cons.mp apart).1 next List.mem_cons_self)
  | case4 q next rest other ih => rw [ih (List.pairwise_cons.mp apart).2]

/-- Nothing is done to quantiles from zero to one that ascend already. -/
theorem normalQuantiles_eq_self {asked : List Binary64}
    (inside : ∀ q ∈ asked, (Binary64.zero.le q && q.le .one) = true)
    (ascending : asked.Pairwise Below) : normalQuantiles asked = asked := by
  have ordered : asked.Pairwise fun a b => a.placedBefore b = true := ascending.imp Below.placedBefore
  rw [normalQuantiles, List.filter_eq_self.mpr inside, List.mergeSort_of_pairwise ordered]
  exact dropRepeats_eq_self (ascending.imp Below.not_sameValue)

/-! ## The values that are kept -/

/-- The values of some numbers. A NaN has none, and both zeros have one. -/
def Binary64.values (qs : List Binary64) : List Int := qs.filterMap Binary64.value

variable {asked kept : List Binary64} {q : Binary64} {x : Int}

theorem mem_values_iff : x ∈ values kept ↔ ∃ q ∈ kept, q.value = some x := List.mem_filterMap

/-- Leaving repetitions out leaves no value out, in whatever order they are. -/
theorem mem_values_dropRepeats : x ∈ values (dropRepeats kept) ↔ x ∈ values kept := by
  fun_induction dropRepeats kept with
  | case1 => rfl
  | case2 q => rfl
  | case3 q next rest same ih =>
    -- The one that is left out has the value of the one before it.
    obtain ⟨y, first, second⟩ := sameValue_iff.mp same
    rw [ih]
    simp [values, first, second]
  | case4 q next rest apart ih =>
    simp only [values, List.filterMap_cons] at ih ⊢
    cases q.value with
    | none => exact ih
    | some y => rw [List.mem_cons, List.mem_cons, ih]

/-- A timer keeps exactly the values from zero to one that it is asked for. -/
theorem mem_values_normalQuantiles :
    x ∈ values (normalQuantiles asked) ↔ x ∈ values asked ∧ 0 ≤ x ∧ x ≤ unit := by
  rw [normalQuantiles, mem_values_dropRepeats, mem_values_iff, mem_values_iff]
  constructor
  · rintro ⟨q, member, known⟩
    rw [List.mem_mergeSort, List.mem_filter, Bool.and_eq_true] at member
    exact ⟨⟨q, member.1, known⟩, (le_iff_of_value value_zero known).mp member.2.1,
      (le_iff_of_value known value_one).mp member.2.2⟩
  · rintro ⟨⟨q, own, known⟩, least, most⟩
    refine ⟨q, ?_, known⟩
    rw [List.mem_mergeSort, List.mem_filter, Bool.and_eq_true]
    exact ⟨own, (le_iff_of_value value_zero known).mpr least,
      (le_iff_of_value known value_one).mpr most⟩

private theorem values_ascending (ascending : kept.Pairwise Below) :
    (values kept).Pairwise (· < ·) := by
  refine List.pairwise_filterMap.mpr (ascending.imp ?_)
  rintro p q ⟨x, y, left, right, less⟩ _ first _ second
  rw [left] at first
  rw [right] at second
  cases first
  cases second
  exact less

/-- **Configured quantiles are normalised.** Whatever numbers a timer is asked for, and whatever it has
seen since, the quantiles that it keeps ascend strictly in the order of their values, so no two of them
are equal, not even two zeros. They are from zero to one and were asked for, and every number from zero
to one that was asked for equals one of them. So a timer that is asked for the same values, in another
order, more often or with other signs of zero, keeps the same values. -/
theorem configured_quantiles_are_normal (asked : List Binary64) (durations : List Duration) :
    let kept := ((Timings.new asked).recordAll durations).quantiles
    kept.Pairwise Below ∧
    (kept.Pairwise fun p q => ¬ p.sameValue q = true) ∧
    (∀ q ∈ kept, q ∈ asked ∧ zero.le q = true ∧ q.le .one = true) ∧
    (∀ q ∈ asked, zero.le q = true → q.le .one = true → ∃ own ∈ kept, q.sameValue own = true) ∧
    ∀ others, (∀ x, x ∈ values others ↔ x ∈ values asked) →
      values (Timings.new others).quantiles = values kept := by
  intro kept
  have same : kept = normalQuantiles asked := Timings.quantiles_recordAll _ _
  rw [same]
  have ascending := normalQuantiles_ascending asked
  refine ⟨ascending, ascending.imp Below.not_sameValue, fun q => mem_normalQuantiles, ?_, ?_⟩
  · intro q member least most
    obtain ⟨_, x, -, known, -⟩ := le_iff.mp least
    have isKept : x ∈ values (normalQuantiles asked) := by
      refine mem_values_normalQuantiles.mpr ⟨mem_values_iff.mpr ⟨q, member, known⟩, ?_, ?_⟩
      · exact (le_iff_of_value value_zero known).mp least
      · exact (le_iff_of_value known value_one).mp most
    obtain ⟨own, ownMember, ownKnown⟩ := mem_values_iff.mp isKept
    exact ⟨own, ownMember, sameValue_iff.mpr ⟨x, known, ownKnown⟩⟩
  · intro others alike
    refine (values_ascending (normalQuantiles_ascending others)).eq_of_mem_iff
      (values_ascending ascending) fun x => ?_
    rw [mem_values_normalQuantiles, mem_values_normalQuantiles, alike]

end Telemetry
