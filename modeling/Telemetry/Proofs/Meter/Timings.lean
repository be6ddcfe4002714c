import Mathlib.Algebra.Order.BigOperators.Group.List
import Mathlib.Algebra.Order.Group.Nat
import Telemetry.Meter.Timings
import Telemetry.Naturals

/-! What a timer comes to. Operations are taken in one after the other; the count and the total are their
number and their sum, wrapped around as words are, the maximum is the longest of them, and the window
holds the latest. -/
namespace Telemetry

theorem clampedWord_toNat (d : Duration) :
    d.clampedWord.toNat = min d.nanoseconds (2 ^ 64 - 1) :=
  UInt64.toNat_ofNat_of_lt' (Nat.lt_of_le_of_lt (Nat.min_le_right _ _) (by decide))

theorem toNat_max (a b : UInt64) : (max a b).toNat = max a.toNat b.toNat := by
  change (if a ≤ b then b else a).toNat = _
  simp only [Nat.max_def, UInt64.le_iff_toNat_le]
  split <;> rfl

namespace Timings

/-- Takes some operations in, one after the other. -/
def recordAll (timings : Timings) (durations : List Duration) : Timings :=
  durations.foldl record timings

/-- The nanoseconds of some operations together, each cut to what a word can hold. -/
def clampedSum (durations : List Duration) : Nat :=
  (durations.map fun d => d.clampedWord.toNat).sum

@[simp] theorem recordAll_nil (timings : Timings) : timings.recordAll [] = timings := rfl

@[simp] theorem recordAll_cons (timings : Timings) (d : Duration) (rest : List Duration) :
    timings.recordAll (d :: rest) = (timings.record d).recordAll rest := rfl

@[simp] theorem clampedSum_nil : clampedSum [] = 0 := rfl

@[simp] theorem clampedSum_cons (d : Duration) (rest : List Duration) :
    clampedSum (d :: rest) = d.clampedWord.toNat + clampedSum rest := by
  simp [clampedSum]

@[simp] theorem quantiles_recordAll (timings : Timings) (durations : List Duration) :
    (timings.recordAll durations).quantiles = timings.quantiles := by
  induction durations generalizing timings with
  | nil => rfl
  | cons d rest ih => exact ih (timings.record d)

theorem count_recordAll (timings : Timings) (durations : List Duration) :
    (timings.recordAll durations).count = timings.count + .ofNat durations.length := by
  induction durations generalizing timings with
  | nil => simp
  | cons d rest ih =>
    have step : (timings.record d).count = timings.count + 1 := rfl
    rw [recordAll_cons, ih, step, List.length_cons, Nat.add_comm, UInt64.ofNat_add,
      UInt64.add_assoc]
    rfl

theorem totalNanos_recordAll (timings : Timings) (durations : List Duration) :
    (timings.recordAll durations).totalNanos =
      timings.totalNanos + .ofNat (clampedSum durations) := by
  induction durations generalizing timings with
  | nil => simp
  | cons d rest ih =>
    have step : (timings.record d).totalNanos = timings.totalNanos + d.clampedWord := rfl
    rw [recordAll_cons, ih, step, clampedSum_cons, UInt64.ofNat_add, UInt64.ofNat_toNat,
      UInt64.add_assoc]

/-! ## The maximum -/

theorem maxNanos_record (timings : Timings) (d : Duration) :
    (timings.record d).maxNanos.toNat =
      Max.max timings.maxNanos.toNat d.clampedWord.toNat :=
  toNat_max _ _

private theorem maxNanos_le_recordAll (timings : Timings) (durations : List Duration) :
    timings.maxNanos.toNat ≤ (timings.recordAll durations).maxNanos.toNat := by
  induction durations generalizing timings with
  | nil => exact Nat.le_refl _
  | cons d rest ih =>
    have step : timings.maxNanos.toNat ≤ (timings.record d).maxNanos.toNat := by
      rw [maxNanos_record]
      exact Nat.le_max_left _ _
    exact Nat.le_trans step (ih (timings.record d))

/-- No operation took longer than the maximum. -/
theorem le_maxNanos_recordAll (timings : Timings) {durations : List Duration} {d : Duration}
    (member : d ∈ durations) :
    d.clampedWord.toNat ≤ (timings.recordAll durations).maxNanos.toNat := by
  induction durations generalizing timings with
  | nil => cases member
  | cons first rest ih =>
    rcases List.mem_cons.mp member with rfl | later
    · have own : d.clampedWord.toNat ≤ (timings.record d).maxNanos.toNat := by
        rw [maxNanos_record]
        exact Nat.le_max_right _ _
      exact Nat.le_trans own (maxNanos_le_recordAll _ rest)
    · exact ih (timings.record first) later

/-- All operations together took at most their number times the maximum. -/
theorem clampedSum_le (timings : Timings) (durations : List Duration) :
    clampedSum durations ≤ durations.length * (timings.recordAll durations).maxNanos.toNat := by
  have bound : ∀ n ∈ durations.map fun d => d.clampedWord.toNat,
      n ≤ (timings.recordAll durations).maxNanos.toNat := by
    intro n member
    obtain ⟨d, own, rfl⟩ := List.mem_map.mp member
    exact le_maxNanos_recordAll timings own
  have total := List.sum_le_card_nsmul _ _ bound
  rwa [List.length_map, Nat.nsmul_eq_mul] at total

/-! ## The window -/

/-- The window holds the latest operations, the last one first. -/
theorem recent_recordAll {timings : Timings} (bounded : timings.recent.length ≤ windowLength)
    (durations : List Duration) : (timings.recordAll durations).recent =
      ((durations.map Duration.clampedWord).reverse ++ timings.recent).take windowLength := by
  induction durations generalizing timings with
  | nil => simp [List.take_of_length_le bounded]
  | cons d rest ih =>
    have step : (timings.record d).recent =
        (d.clampedWord :: timings.recent).take windowLength := rfl
    have kept : (timings.record d).recent.length ≤ windowLength := by
      rw [step, List.length_take]
      exact Nat.min_le_left _ _
    rw [recordAll_cons, ih kept, step]
    simp [List.take_append, List.take_take]

/-! ## Many operations of one length -/

/-- Of many equal entries no more than fit the window need to be put in front of it. -/
private theorem take_replicate_min (times : Nat) (nanos : UInt64) (recent : List UInt64) :
    (List.replicate (min times windowLength) nanos ++ recent).take windowLength =
      (List.replicate times nanos ++ recent).take windowLength := by
  have rest : windowLength - min times windowLength = windowLength - times := by omega
  simp [List.take_append, List.take_replicate, rest, Nat.min_comm]

theorem recordTimes_succ (timings : Timings) (d : Duration) (times : Nat) :
    timings.recordTimes d (times + 1) = (timings.record d).recordTimes d times := by
  by_cases none : times = 0
  · subst none
    have one : min 1 windowLength = 1 := rfl
    simp [recordTimes, record, one]
  · simp only [recordTimes, record, none, if_false, Nat.succ_ne_zero]
    congr 1
    case e_count =>
      rw [Nat.add_comm, UInt64.ofNat_add, UInt64.add_assoc]
      rfl
    case e_totalNanos =>
      rw [Nat.succ_mul, Nat.add_comm, UInt64.ofNat_add, UInt64.ofNat_toNat, UInt64.add_assoc]
    case e_maxNanos =>
      apply UInt64.toNat_inj.mp
      rw [toNat_max, toNat_max, toNat_max, Nat.max_assoc, Nat.max_self]
    case e_recent =>
      rw [take_replicate_min, take_replicate_min, List.replicate_succ']
      simp [List.take_append, List.take_take]

/-- Taking operations of one length in at once comes to the same as taking them in one by one. -/
theorem recordTimes_eq (timings : Timings) (d : Duration) (times : Nat) :
    timings.recordTimes d times = timings.recordAll (List.replicate times d) := by
  induction times generalizing timings with
  | zero => rfl
  | succ times ih => rw [recordTimes_succ, ih, List.replicate_succ, recordAll_cons]

end Timings
end Telemetry
