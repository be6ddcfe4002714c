import Telemetry.Proofs.Meter.Timings

/-! The mean of a timer. The total is divided by the count as long as the count fits thirty-two bits; from
there on the divisor stays where it is, and the mean comes out too large. -/
namespace Telemetry.Timings
variable {asked : List Binary64} {durations : List Duration}

private theorem count_of_recorded (few : durations.length < 2 ^ 64) :
    ((Timings.new asked).recordAll durations).count.toNat = durations.length := by
  have start : (Timings.new asked).count = 0 := rfl
  rw [count_recordAll, start, UInt64.zero_add, UInt64.toNat_ofNat_of_lt' few]

private theorem total_of_recorded (short : clampedSum durations < 2 ^ 64) :
    ((Timings.new asked).recordAll durations).totalNanos.toNat = clampedSum durations := by
  have start : (Timings.new asked).totalNanos = 0 := rfl
  rw [totalNanos_recordAll, start, UInt64.zero_add, UInt64.toNat_ofNat_of_lt' short]

/-- The total over the count is never more than the longest operation. -/
theorem clampedSum_div_le (some : durations ≠ []) :
    clampedSum durations / durations.length ≤
      ((Timings.new asked).recordAll durations).maxNanos.toNat := by
  have positive : 0 < durations.length := List.length_pos_of_ne_nil some
  apply Nat.div_le_of_le_mul
  exact clampedSum_le _ durations

/-- **The mean of a timer** that took operations in, as many as it can count and as long as it can add
up, is their total over their number, the number being cut to `2^32 - 1`. With fewer than `2^32`
operations it is therefore the total over the count, in whole nanoseconds, and no more than the
maximum. With more of them it is never less than that quotient. -/
theorem mean_of_recorded (asked : List Binary64) (durations : List Duration)
    (some : durations ≠ []) (few : durations.length < 2 ^ 64)
    (short : clampedSum durations < 2 ^ 64) :
    let timings := (Timings.new asked).recordAll durations
    timings.count.toNat = durations.length ∧
    timings.total.nanoseconds = clampedSum durations ∧
    timings.mean.nanoseconds = clampedSum durations / min durations.length (2 ^ 32 - 1) ∧
    timings.total.nanoseconds / timings.count.toNat ≤ timings.mean.nanoseconds ∧
    (durations.length < 2 ^ 32 →
      timings.mean.nanoseconds = timings.total.nanoseconds / timings.count.toNat ∧
      timings.mean.nanoseconds ≤ timings.max.nanoseconds) := by
  intro timings
  have count : timings.count.toNat = durations.length := count_of_recorded few
  have total : timings.total.nanoseconds = clampedSum durations := total_of_recorded short
  have mean : timings.mean.nanoseconds =
      clampedSum durations / min durations.length (2 ^ 32 - 1) := by
    change timings.total.nanoseconds / min timings.count.toNat largestDivisor = _
    rw [total, count]
    rfl
  have positive : 0 < durations.length := List.length_pos_of_ne_nil some
  refine ⟨count, total, mean, ?_, ?_⟩
  · rw [mean, total, count]
    apply Nat.div_le_div_left
    · exact Nat.min_le_left _ _
    · omega
  · intro fits
    have whole : min durations.length (2 ^ 32 - 1) = durations.length := by omega
    rw [mean, total, count, whole]
    exact ⟨rfl, clampedSum_div_le some⟩

/-- Three operations, the mean of which is rounded down. -/
theorem mean_of_three_operations :
    let durations : List Duration := [⟨10000000⟩, ⟨30000000⟩, ⟨3⟩]
    let timings := (Timings.new []).recordAll durations
    durations ≠ [] ∧ durations.length < 2 ^ 64 ∧ clampedSum durations < 2 ^ 64 ∧
      durations.length < 2 ^ 32 ∧
      timings.mean.nanoseconds = timings.total.nanoseconds / timings.count.toNat ∧
      timings.mean.nanoseconds ≤ timings.max.nanoseconds ∧
      timings.mean = ⟨13333334⟩ := by
  intro durations timings
  have some : durations ≠ [] := List.cons_ne_nil _ _
  have few : durations.length < 2 ^ 64 := by decide
  have short : clampedSum durations < 2 ^ 64 := by decide
  have fits : durations.length < 2 ^ 32 := by decide
  obtain ⟨-, -, -, -, fitting⟩ := mean_of_recorded [] durations some few short
  exact ⟨some, few, short, fits, (fitting fits).1, (fitting fits).2, by decide⟩

/-- Where the count no longer fits, the mean can be more than every operation was: here all of them took
`2^32 - 1` nanoseconds, and the mean is one nanosecond more. -/
theorem mean_above_every_operation :
    let durations : List Duration := List.replicate (2 ^ 32) ⟨2 ^ 32 - 1⟩
    let timings := (Timings.new []).recordAll durations
    durations ≠ [] ∧ durations.length < 2 ^ 64 ∧ clampedSum durations < 2 ^ 64 ∧
      timings.mean.nanoseconds ≠ timings.total.nanoseconds / timings.count.toNat ∧
      ¬ timings.mean.nanoseconds ≤ timings.max.nanoseconds := by
  intro durations timings
  have number : durations.length = 2 ^ 32 := List.length_replicate
  have sum : clampedSum durations = 2 ^ 32 * (2 ^ 32 - 1) := by
    simp only [clampedSum, durations, List.map_replicate, List.sum_replicate_nat]
    rfl
  have atOnce : timings = (Timings.new []).recordTimes ⟨2 ^ 32 - 1⟩ (2 ^ 32) :=
    (recordTimes_eq _ _ _).symm
  refine ⟨?_, by rw [number]; decide, by rw [sum]; decide, ?_, ?_⟩
  · exact List.ne_nil_of_length_pos (by rw [number]; decide)
  · rw [atOnce]
    decide +kernel
  · rw [atOnce]
    decide +kernel

end Telemetry.Timings
