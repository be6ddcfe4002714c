import Telemetry.Proofs.Decimal.Positional

/-! How far a double reaches in decimal notation. The shortest decimal of a double has its first digit
within 310 places before the point and its last within 340 behind it, so no text of a double is long. -/
namespace Telemetry.Decimal
open Binary64
variable {quanta n k : Nat}

private theorem length_le_of_lt (below : n < 10 ^ k) : length n ≤ k := by
  by_cases zero : n = 0
  · rw [zero, length, if_pos rfl]
    exact Nat.zero_le k
  · have place := Nat.lt_of_le_of_lt (pow_length_le zero) below
    have := (Nat.pow_lt_pow_iff_right (by decide : 1 < 10)).mp place
    omega

/-- The first digit of a double is at most 324 places behind the point. -/
private theorem le_leadingExponent (quanta : Nat) : -324 ≤ leadingExponent quanta := by
  unfold leadingExponent
  split
  · omega
  · have unitBound : unit ≤ 10 ^ 324 := by decide +kernel
    have quotient : (unit - 1) / quanta < 10 ^ 324 := by
      have := Nat.div_le_self (unit - 1) quanta
      have := unit_pos
      omega
    have := length_le_of_lt quotient
    omega

/-- As many digits before the point are enough for every double. -/
def mostPlaces : Nat := 310

/-- A decimal that is neither larger nor finer than those of doubles are. -/
structure InRange (d : Decimal) : Prop where
  positive : 0 < d.digits
  last : -340 ≤ d.exponent
  first : d.exponent + (digitText d.digits).length ≤ mostPlaces

private theorem le_exponent_stripZeros (count : Nat) (place : Int) :
    place ≤ (stripZeros count place).exponent := by
  obtain ⟨zeros, -, moved⟩ := stripZeros_spec count place
  omega

private theorem le_exponent_shortest (tie : Tie) (quanta : Nat) :
    -340 ≤ (shortest tie quanta).exponent := by
  unfold shortest
  dsimp only
  generalize search : (List.range mostDigits).findSome? _ = found
  cases found with
  | some d =>
    obtain ⟨n, member, point⟩ := List.exists_of_findSome?_eq_some search
    obtain ⟨digits, -, rfl⟩ := Option.map_eq_some_iff.mp point
    have few : n < 17 := List.mem_range.mp member
    have leading := le_leadingExponent quanta
    have := le_exponent_stripZeros digits (leadingExponent quanta - n)
    exact Int.le_trans (by omega) this
  | none =>
    have := le_exponent_stripZeros (4 * quanta) 0
    exact Int.le_trans (by decide) this

/-- A double lies well below the power of ten behind the largest. -/
private theorem numerator_lt (tie : Tie) (positive : 0 < quanta) (double : IsDouble quanta) :
    numerator (shortest tie quanta) < 10 ^ mostPlaces * denominator (shortest tie quanta) := by
  have high := (contains_shortest tie positive double.onGrid).bounds.2
  have step := spacing_le positive double.onGrid
  have wide : (roundingInterval quanta).high ≤ 6 * quanta := by
    rw [roundingInterval_high]
    omega
  have largest : 6 * limit ≤ 4 * unit * 10 ^ mostPlaces := by decide +kernel
  have below := double.below
  have denPos : 0 < denominator (shortest tie quanta) := Nat.pow_pos (by decide)
  generalize denominator (shortest tie quanta) = den at *
  generalize numerator (shortest tie quanta) = num at *
  -- The ends of the interval are in quarters of the smallest double, so everything is compared there.
  refine Nat.lt_of_mul_lt_mul_left (a := 4 * unit) ?_
  calc
    4 * unit * num ≤ (roundingInterval quanta).high * den := high
    _ ≤ 6 * quanta * den := Nat.mul_le_mul_right den wide
    _ < 6 * limit * den := Nat.mul_lt_mul_of_pos_right (by omega) denPos
    _ ≤ 4 * unit * 10 ^ mostPlaces * den := Nat.mul_le_mul_right den largest
    _ = 4 * unit * (10 ^ mostPlaces * den) := Nat.mul_assoc _ _ _

theorem digits_pos (tie : Tie) (positive : 0 < quanta) (grid : spacing quanta ∣ quanta) :
    0 < (shortest tie quanta).digits := by
  have low := (contains_shortest tie positive grid).bounds.1
  have step := spacing_le positive grid
  have lowPos : 0 < (roundingInterval quanta).low := by
    rcases roundingInterval_low quanta with ⟨-, -, low⟩ | ⟨-, low⟩ <;> omega
  have scaled := Nat.mul_pos lowPos
    (Nat.pow_pos (n := (-(shortest tie quanta).exponent).toNat) (by decide : 0 < 10))
  refine Nat.pos_of_ne_zero fun zero => ?_
  rw [numerator, zero, Nat.zero_mul, Nat.mul_zero] at low
  exact absurd scaled (Nat.not_lt.mpr low)

theorem shortest_inRange (tie : Tie) (positive : 0 < quanta) (double : IsDouble quanta) :
    InRange (shortest tie quanta) := by
  refine ⟨digits_pos tie positive double.onGrid, le_exponent_shortest tie quanta, ?_⟩
  have places := numerator_lt tie positive double
  have digits := digits_pos tie positive double.onGrid
  unfold numerator denominator at places
  generalize shortest tie quanta = d at places digits ⊢
  rw [← Nat.pow_add] at places
  have reach : d.exponent.toNat < mostPlaces + (-d.exponent).toNat := by
    refine (Nat.pow_lt_pow_iff_right (by decide : 1 < 10)).mp ?_
    exact Nat.lt_of_le_of_lt (Nat.le_mul_of_pos_left _ digits) places
  have few : d.digits < 10 ^ (mostPlaces + (-d.exponent).toNat - d.exponent.toNat) := by
    refine Nat.lt_of_mul_lt_mul_right (a := 10 ^ d.exponent.toNat) ?_
    rwa [← Nat.pow_add, Nat.sub_add_cancel (Nat.le_of_lt reach)]
  have short : (digitText d.digits).length ≤ mostPlaces + (-d.exponent).toNat - d.exponent.toNat :=
    (Nat.length_toDigits_le_iff (by decide) (by omega)).mpr few
  omega

variable {layout : Layout}

private theorem length_positional_le (whole : layout.wholeSuffix = "") {d : Decimal}
    (range : InRange d) : (positional layout d).length ≤ 652 := by
  have last := range.last
  have first : d.exponent + (digitText d.digits).length ≤ 310 := range.first
  unfold positional
  dsimp only
  split
  · rw [whole, String.toList_empty, List.append_nil, List.length_append, List.length_replicate]
    omega
  · split
    · rw [List.length_append, List.length_take, List.length_cons, List.length_drop]
      omega
    · simp only [List.length_cons, List.length_append, List.length_replicate]
      omega

private theorem length_unsigned_le (written : layout.Positional) (double : IsDouble quanta) :
    (unsigned layout quanta).length ≤ 652 := by
  unfold unsigned
  split
  · rw [written.whole]
    decide
  · rename_i nonzero
    rw [magnitude_eq written]
    exact length_positional_le written.whole
      (shortest_inRange layout.tie (Nat.pos_of_ne_zero nonzero) double)

/-- The text of a finite number is short. -/
theorem length_write_finite_le (written : layout.Positional) {negative : Bool}
    {double : IsDouble quanta} :
    (layout.write (.finite negative quanta double)).toList.length ≤ 653 := by
  have bound := length_unsigned_le written double
  rw [write_finite]
  cases negative with
  | false => exact Nat.le_succ_of_le bound
  | true => exact Nat.succ_le_succ bound

end Telemetry.Decimal
