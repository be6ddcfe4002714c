import Telemetry.Proofs.Meter.Quantiles
import Telemetry.Proofs.Meter.Timings

/-! The values of quantiles. The window is sorted and a sample taken out of it by its position, so the
value is the sample of that rank: fewer samples than the rank are below it, and at least as many as
the rank are not above it. Nothing else about sorting is needed. -/
namespace Telemetry
open Binary64
variable {samples others : List UInt64} {p q i : Nat} {n m : UInt64}

/-- The rank among so many samples that a product is cut to. -/
def rankOf (product : Binary64) (number : Nat) : Nat := max 1 (min product.ceilWord number)

/-- A sample is the one of a rank, counted from one in ascending order. -/
structure IsRanked (rank : Nat) (samples : List UInt64) (n : UInt64) : Prop where
  member : n ∈ samples
  below : samples.countP (· < n) < rank
  upTo : rank ≤ samples.countP (· ≤ n)

/-- Whatever the product is, it is cut to a rank that there is. -/
theorem rankOf_bounds (product : Binary64) {number : Nat} (some : 0 < number) :
    1 ≤ rankOf product number ∧ rankOf product number ≤ number := by
  unfold rankOf
  omega

theorem rankOf_mono {a b : Binary64} (le : a.le b = true) (number : Nat) :
    rankOf a number ≤ rankOf b number := by
  have words := ceilWord_le_of_le le
  unfold rankOf
  omega

theorem IsRanked.perm (ranked : IsRanked p samples n) (same : samples.Perm others) :
    IsRanked p others n where
  member := same.subset ranked.member
  below := by
    rw [← same.countP_eq]
    exact ranked.below
  upTo := by
    rw [← same.countP_eq]
    exact ranked.upTo

/-- In an ascending list the samples below one stand in front of it, so its rank is their number and
one. -/
private theorem isRanked_middle {front back : List UInt64}
    (ascending : (front ++ n :: back).Pairwise (· ≤ ·)) :
    IsRanked (front.length + 1) (front ++ n :: back) n := by
  obtain ⟨-, behind, across⟩ := List.pairwise_append.mp ascending
  obtain ⟨above, -⟩ := List.pairwise_cons.mp behind
  have noneBehind : (n :: back).countP (· < n) = 0 := by
    apply List.countP_eq_zero.mpr
    intro m member less
    have notAbove : ¬ n ≤ m := UInt64.not_le.mpr (of_decide_eq_true less)
    rcases List.mem_cons.mp member with rfl | later
    · exact notAbove (UInt64.le_refl m)
    · exact notAbove (above m later)
  have allInFront : front.countP (· ≤ n) = front.length := by
    apply List.countP_eq_length.mpr
    intro m member
    exact decide_eq_true (across m member n List.mem_cons_self)
  refine ⟨List.mem_append_right _ List.mem_cons_self, ?_, ?_⟩
  · rw [List.countP_append, noneBehind]
    exact Nat.lt_succ_of_le List.countP_le_length
  · rw [List.countP_append, allInFront, List.countP_cons_of_pos (by simp)]
    omega

theorem isRanked_getElem (ascending : samples.Pairwise (· ≤ ·)) (bound : i < samples.length) :
    IsRanked (i + 1) samples samples[i] := by
  have cut : samples.take i ++ samples[i] :: samples.drop (i + 1) = samples := by
    rw [← List.drop_eq_getElem_cons bound, List.take_append_drop]
  rw [← cut] at ascending
  have ranked := isRanked_middle ascending
  rwa [cut, List.length_take, Nat.min_eq_left (Nat.le_of_lt bound)] at ranked

/-- A larger rank is that of a larger sample. -/
theorem IsRanked.le_of_le (first : IsRanked p samples n) (second : IsRanked q samples m)
    (le : p ≤ q) : n ≤ m := by
  by_contra above
  have less : m < n := UInt64.not_le.mp above
  have fewer : samples.countP (· ≤ m) ≤ samples.countP (· < n) := by
    apply List.countP_mono_left
    intro k _ upTo
    exact decide_eq_true (UInt64.lt_of_le_of_lt (of_decide_eq_true upTo) less)
  have := first.below
  have := second.upTo
  omega

private theorem mergeSort_ascending (samples : List UInt64) : samples.mergeSort.Pairwise (· ≤ ·) := by
  have transitive (a b c : UInt64) (first : decide (a ≤ b) = true) (second : decide (b ≤ c) = true) :
      decide (a ≤ c) = true :=
    decide_eq_true (UInt64.le_trans (of_decide_eq_true first) (of_decide_eq_true second))
  have total (a b : UInt64) : (decide (a ≤ b) || decide (b ≤ a)) = true := by
    rw [Bool.or_eq_true, decide_eq_true_iff, decide_eq_true_iff]
    exact UInt64.le_total a b
  exact (List.pairwise_mergeSort transitive total samples).imp of_decide_eq_true

/-- What is taken out of the sorted samples for a quantile is the sample of the rank that the product of
the quantile and their number is cut to. -/
theorem isRanked_nearestRank (quantile : Binary64) (some : samples ≠ []) :
    IsRanked (rankOf (quantile * .ofNat samples.length) samples.length) samples
      (nearestRank samples.mergeSort quantile) := by
  have same : samples.mergeSort.Perm samples := List.mergeSort_perm samples _
  have number : samples.mergeSort.length = samples.length := same.length_eq
  have bounds := rankOf_bounds (quantile * .ofNat samples.length) (List.length_pos_of_ne_nil some)
  have taken : nearestRank samples.mergeSort quantile = samples.mergeSort.getD
      (rankOf (quantile * .ofNat samples.length) samples.length - 1) 0 := by
    rw [← number]
    rfl
  rw [taken]
  generalize rankOf (quantile * .ofNat samples.length) samples.length = rank at *
  have bound : rank - 1 < samples.mergeSort.length := by omega
  have ranked := (isRanked_getElem (mergeSort_ascending samples) bound).perm same
  rwa [Nat.sub_add_cancel bounds.1, List.getElem_eq_getD 0] at ranked

namespace Timings
variable {asked : List Binary64} {durations : List Duration}

/-- The latest operations of some, as many as the window holds. -/
def latest (durations : List Duration) : List UInt64 :=
  (durations.map Duration.clampedWord).drop (durations.length - windowLength)

private theorem length_latest (durations : List Duration) :
    (latest durations).length = min durations.length windowLength := by
  rw [latest, List.length_drop, List.length_map]
  omega

theorem latest_eq_nil_iff : latest durations = [] ↔ durations = [] := by
  have length : windowLength = 1024 := rfl
  rw [List.eq_nil_iff_length_eq_zero, List.eq_nil_iff_length_eq_zero, length_latest]
  omega

private theorem reverse_recent_recordAll (asked : List Binary64) (durations : List Duration) :
    ((Timings.new asked).recordAll durations).recent.reverse = latest durations := by
  have bounded : (Timings.new asked).recent.length ≤ windowLength := Nat.zero_le _
  have start : (Timings.new asked).recent = [] := rfl
  rw [recent_recordAll bounded, start, List.append_nil, List.take_reverse, List.reverse_reverse,
    List.length_map]
  rfl

theorem map_fst_quantileValues (timings : Timings) :
    timings.quantileValues.map Prod.fst = timings.quantiles := by
  rw [quantileValues, List.map_map]
  exact List.map_id _

/-- The value of a quantile is the sample of nearest rank. -/
theorem mem_quantileValues {timings : Timings} {q : Binary64} {value : Duration} :
    (q, value) ∈ timings.quantileValues ↔
      q ∈ timings.quantiles ∧ value = ⟨(nearestRank timings.recent.mergeSort q).toNat⟩ := by
  unfold quantileValues
  rw [List.mem_map]
  constructor
  · rintro ⟨own, member, same⟩
    cases same
    exact ⟨member, rfl⟩
  · rintro ⟨member, rfl⟩
    exact ⟨q, member, rfl⟩

private theorem le_max_of_mem_latest {timings : Timings} (member : n ∈ latest durations) :
    n.toNat ≤ (timings.recordAll durations).max.nanoseconds := by
  obtain ⟨d, own, rfl⟩ := List.mem_map.mp ((List.drop_sublist _ _).subset member)
  exact le_maxNanos_recordAll timings own

/-- A higher quantile has no lower rank. -/
private theorem rankOf_le_of_le {q q' : Binary64} (first : q ∈ normalQuantiles asked)
    (second : q' ∈ normalQuantiles asked) (le : q.le q' = true) (number : Nat)
    (few : number ≤ windowLength) :
    rankOf (q * .ofNat number) number ≤ rankOf (q' * .ofNat number) number := by
  obtain ⟨-, least, most⟩ := mem_normalQuantiles first
  obtain ⟨-, least', most'⟩ := mem_normalQuantiles second
  have small : number ≤ 2 ^ 53 := Nat.le_trans few (by decide)
  apply rankOf_mono
  exact mul_ofNat_le (isFinite_of_le least most) (isFinite_of_le least' most') small le

/-- **The values of quantiles are nearest ranks** in the latest operations, of which the window holds as
many as fit it. A timer that saw nothing gives zero; any other gives the sample whose rank is the
quantile times the number of samples, gone up to a whole number and cut to the ranks that there are,
whatever the product is. So the value is one of the samples and no more than the maximum, and the higher
quantile has the higher value. -/
theorem quantiles_are_nearest_ranks (asked : List Binary64) (durations : List Duration) :
    let timings := (Timings.new asked).recordAll durations
    let window := latest durations
    timings.quantiles = normalQuantiles asked ∧
    timings.recent.reverse = window ∧
    window.length = min durations.length windowLength ∧
    timings.quantileValues.map Prod.fst = timings.quantiles ∧
    (∀ product, window ≠ [] →
      1 ≤ rankOf product window.length ∧ rankOf product window.length ≤ window.length) ∧
    (∀ q value, (q, value) ∈ timings.quantileValues →
      (durations = [] → value = .zero) ∧
      (durations ≠ [] → ∃ n, value = ⟨n.toNat⟩ ∧ n ∈ window ∧
        IsRanked (rankOf (q * .ofNat window.length) window.length) window n ∧
        value.nanoseconds ≤ timings.max.nanoseconds)) ∧
    ∀ q value q' value', (q, value) ∈ timings.quantileValues →
      (q', value') ∈ timings.quantileValues → q.le q' = true →
      value.nanoseconds ≤ value'.nanoseconds := by
  intro timings window
  have kept : timings.quantiles = normalQuantiles asked := quantiles_recordAll _ _
  have held : timings.recent.reverse = window := reverse_recent_recordAll asked durations
  have shuffled : timings.recent.Perm window := by
    rw [← held]
    exact (List.reverse_perm _).symm
  have number : window.length = min durations.length windowLength := length_latest durations
  have unseen (empty : durations = []) (q : Binary64) :
      nearestRank timings.recent.mergeSort q = 0 := by
    have nothing : timings.recent = [] := by
      rw [← List.reverse_eq_nil_iff, held]
      exact latest_eq_nil_iff.mpr empty
    rw [nothing, List.mergeSort_nil]
    rfl
  -- Sorting does not see in which order the window holds the samples.
  have ranked (some : durations ≠ []) (q : Binary64) :
      IsRanked (rankOf (q * .ofNat window.length) window.length) window
        (nearestRank timings.recent.mergeSort q) := by
    have nonempty : timings.recent ≠ [] := by
      intro nothing
      rw [nothing] at shuffled
      exact some (latest_eq_nil_iff.mp shuffled.nil_eq.symm)
    rw [← shuffled.length_eq]
    exact (isRanked_nearestRank q nonempty).perm shuffled
  refine ⟨kept, held, number, map_fst_quantileValues timings, ?_, ?_, ?_⟩
  · intro product some
    exact rankOf_bounds product (List.length_pos_of_ne_nil some)
  · intro q value member
    obtain ⟨-, rfl⟩ := mem_quantileValues.mp member
    constructor
    · intro empty
      rw [unseen empty q]
      rfl
    · intro some
      have own := ranked some q
      exact ⟨_, rfl, own.member, own, le_max_of_mem_latest own.member⟩
  · intro q value q' value' member member' le
    obtain ⟨first, rfl⟩ := mem_quantileValues.mp member
    obtain ⟨second, rfl⟩ := mem_quantileValues.mp member'
    by_cases empty : durations = []
    · rw [unseen empty q, unseen empty q']
    · rw [kept] at first second
      have few : window.length ≤ windowLength := by omega
      exact UInt64.le_iff_toNat_le.mp
        ((ranked empty q).le_of_le (ranked empty q') (rankOf_le_of_le first second le _ few))

end Timings
end Telemetry
