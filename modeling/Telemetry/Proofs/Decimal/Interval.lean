import Telemetry.Decimal.Shortest

/-! Which numbers round to which double. The rounding intervals of two doubles never share a number:
they can only meet halfway between neighbours, and of two neighbours one alone is even and owns its
ends. -/
namespace Telemetry.Binary64

theorem spacing_dvd_spacing (le : p ≤ q) : spacing p ∣ spacing q := by
  rw [spacing_eq, spacing_eq]
  by_cases zero : p = 0
  · subst zero
    simp
  · have log : p.log2 ≤ q.log2 := (Nat.le_log2 (by omega)).mpr (Nat.le_trans (Nat.log2_self_le zero) le)
    exact Nat.pow_dvd_pow 2 (by omega)

/-- A larger number of quanta on the grid is larger by the spacing at least. -/
theorem add_spacing_le (first : spacing p ∣ p) (second : spacing q ∣ q) (lt : p < q) :
    p + spacing p ≤ q := by
  have dvd : spacing p ∣ q - p :=
    Nat.dvd_sub (Nat.dvd_trans (spacing_dvd_spacing (by omega)) second) first
  have := Nat.le_of_dvd (by omega) dvd
  omega

theorem log2_eq_of_between (low : 2 ^ k ≤ n) (high : n < 2 ^ (k + 1)) : n.log2 = k := by
  have pos : n ≠ 0 := by
    have := Nat.two_pow_pos k
    omega
  have atLeast := (Nat.le_log2 pos).mpr low
  have below := (Nat.log2_lt pos).mpr high
  omega

/-- The power of two below a number has the spacing of the number, and lies on its own grid. -/
theorem spacing_two_pow_log2 (q : Nat) : spacing (2 ^ q.log2) = spacing q := by
  rw [spacing_eq, spacing_eq, Nat.log2_two_pow]

theorem spacing_dvd_two_pow_log2 (q : Nat) : spacing (2 ^ q.log2) ∣ 2 ^ q.log2 := by
  rw [spacing_eq, Nat.log2_two_pow]
  exact Nat.pow_dvd_pow 2 (by omega)

end Telemetry.Binary64

namespace Telemetry.Decimal
open Binary64

/-- Whether the fraction `num / den` lies in an interval. -/
def RoundingInterval.Contains (interval : RoundingInterval) (num den : Nat) : Prop :=
  if interval.closed then
    interval.low * den ≤ 4 * unit * num ∧ 4 * unit * num ≤ interval.high * den
  else interval.low * den < 4 * unit * num ∧ 4 * unit * num < interval.high * den

theorem RoundingInterval.Contains.bounds {interval : RoundingInterval}
    (contains : interval.Contains num den) :
    interval.low * den ≤ 4 * unit * num ∧ 4 * unit * num ≤ interval.high * den := by
  unfold RoundingInterval.Contains at contains
  split at contains
  · exact contains
  · exact ⟨Nat.le_of_lt contains.1, Nat.le_of_lt contains.2⟩

/-- Only a closed interval has its ends. -/
theorem RoundingInterval.Contains.closed_of_end {interval : RoundingInterval}
    (contains : interval.Contains num den)
    (atEnd : interval.low * den = 4 * unit * num ∨
      4 * unit * num = interval.high * den) : interval.closed = true := by
  unfold RoundingInterval.Contains at contains
  split at contains
  · assumption
  · rcases atEnd with low | high
    · exact absurd contains.1 (by omega)
    · exact absurd contains.2 (by omega)

theorem roundingInterval_high (q : Nat) : (roundingInterval q).high = 4 * q + 2 * spacing q := rfl

/-- Below a power of two the neighbour is nearer, unless the spacing is a quantum already. -/
theorem roundingInterval_low (q : Nat) :
    (1 < spacing q ∧ q = 2 ^ q.log2 ∧ (roundingInterval q).low = 4 * q - spacing q) ∨
      (¬ (1 < spacing q ∧ q = 2 ^ q.log2) ∧ (roundingInterval q).low = 4 * q - 2 * spacing q) := by
  by_cases power : 1 < spacing q ∧ q = 2 ^ q.log2
  · exact .inl ⟨power.1, power.2, by simp only [roundingInterval, if_pos power]⟩
  · exact .inr ⟨power, by simp only [roundingInterval, if_neg power]⟩

/-- In quarters of a quantum, twice the sum of two numbers is halfway between them. -/
private theorem high_le_midpoint (first : spacing p ∣ p) (second : spacing q ∣ q) (lt : p < q) :
    (roundingInterval p).high ≤ 2 * (p + q) := by
  have := add_spacing_le first second lt
  rw [roundingInterval_high]
  omega

/-- The numbers from half of a power of two up to it have half its spacing, so the largest of them is
not farther below it than its interval reaches. -/
private theorem spacing_le_of_power (first : spacing p ∣ p) (second : spacing q ∣ q) (lt : p < q)
    (wide : 1 < spacing q) (power : q = 2 ^ q.log2) : spacing q ≤ 2 * (q - p) := by
  have step : spacing q = 2 ^ (q.log2 - 52) := spacing_eq q
  have exponent : 53 ≤ q.log2 := by
    rcases Nat.lt_or_ge q.log2 53 with small | large
    · rw [step, show q.log2 - 52 = 0 by omega] at wide
      omega
    · exact large
  by_cases far : 2 * p < q
  · have : 2 ^ (q.log2 - 52) ≤ 2 ^ q.log2 := Nat.pow_le_pow_right (by omega) (by omega)
    omega
  · have double : 2 ^ q.log2 = 2 * 2 ^ (q.log2 - 1) := by
      rw [← Nat.pow_succ', show (q.log2 - 1).succ = q.log2 by omega]
    have log : p.log2 = q.log2 - 1 := by
      refine log2_eq_of_between (by omega) ?_
      rw [show q.log2 - 1 + 1 = q.log2 by omega]
      omega
    have half : spacing q = 2 * spacing p := by
      rw [spacing_eq p, step, log, ← Nat.pow_succ',
        show (q.log2 - 1 - 52).succ = q.log2 - 52 by omega]
    have := add_spacing_le first second lt
    omega

/-- Above a power of two the spacing is the same up to the next one. -/
private theorem spacing_le_of_not_power (first : spacing p ∣ p) (second : spacing q ∣ q) (lt : p < q)
    (other : ¬ (1 < spacing q ∧ q = 2 ^ q.log2)) : spacing q ≤ q - p := by
  have positive : q ≠ 0 := by omega
  have atLeast := Nat.log2_self_le positive
  by_cases narrow : spacing q = 1
  · omega
  · have wide : 1 < spacing q := by
      have := spacing_pos q
      omega
    have above : 2 ^ q.log2 < q := Nat.lt_of_le_of_ne atLeast fun same => other ⟨wide, same.symm⟩
    have fromPower := add_spacing_le (spacing_dvd_two_pow_log2 q) second above
    rw [spacing_two_pow_log2] at fromPower
    by_cases inside : 2 ^ q.log2 < p
    · have log : p.log2 = q.log2 :=
        log2_eq_of_between (by omega) (Nat.lt_trans lt Nat.lt_log2_self)
      have same : spacing p = spacing q := by rw [spacing_eq, spacing_eq, log]
      have := add_spacing_le first second lt
      omega
    · omega

private theorem midpoint_le_low (first : spacing p ∣ p) (second : spacing q ∣ q) (lt : p < q) :
    2 * (p + q) ≤ (roundingInterval q).low := by
  rcases roundingInterval_low q with ⟨wide, power, low⟩ | ⟨other, low⟩
  · have := spacing_le_of_power first second lt wide power
    omega
  · have := spacing_le_of_not_power first second lt other
    omega

private theorem two_mul_spacing_dvd (grid : spacing q ∣ q)
    (closed : (roundingInterval q).closed = true) : 2 * spacing q ∣ q := by
  obtain ⟨count, shape⟩ := grid
  have quotient : q / spacing q = count := Nat.div_eq_of_eq_mul_right (spacing_pos q) shape
  have even : q / spacing q % 2 = 0 := of_decide_eq_true closed
  rw [quotient] at even
  obtain ⟨half, rfl⟩ := Nat.dvd_of_mod_eq_zero even
  exact ⟨half, by rw [Nat.mul_comm 2, Nat.mul_assoc]; exact shape⟩

/-- A number that rounds to one double does not round to a larger one. -/
private theorem not_contains_of_lt (first : spacing p ∣ p) (second : spacing q ∣ q) (lt : p < q)
    (positive : 0 < den) (own : (roundingInterval p).Contains num den) :
    ¬ (roundingInterval q).Contains num den := by
  intro other
  have high := Nat.mul_le_mul_right den (high_le_midpoint first second lt)
  have low := Nat.mul_le_mul_right den (midpoint_le_low first second lt)
  have ownBound := own.bounds.2
  have otherBound := other.bounds.1
  have ownClosed := own.closed_of_end (.inr (by omega))
  have otherClosed := other.closed_of_end (.inl (by omega))
  have meet : (roundingInterval p).high = 2 * (p + q) :=
    Nat.eq_of_mul_eq_mul_right positive (by omega)
  have neighbour : q = p + spacing p := by
    rw [roundingInterval_high] at meet
    omega
  -- neighbours cannot both be even multiples of the smaller spacing
  have ownEven := two_mul_spacing_dvd first ownClosed
  have otherEven : 2 * spacing p ∣ q :=
    Nat.dvd_trans (Nat.mul_dvd_mul_left 2 (spacing_dvd_spacing (by omega)))
      (two_mul_spacing_dvd second otherClosed)
  have difference := Nat.dvd_sub otherEven ownEven
  rw [neighbour, Nat.add_sub_cancel_left] at difference
  have := Nat.le_of_dvd (spacing_pos p) difference
  have := spacing_pos p
  omega

/-- A number rounds to one double only. -/
theorem eq_of_contains (first : IsDouble p) (second : IsDouble q) (positive : 0 < den)
    (own : (roundingInterval p).Contains num den)
    (other : (roundingInterval q).Contains num den) : p = q := by
  rcases Nat.lt_trichotomy p q with less | same | greater
  · exact absurd other (not_contains_of_lt first.onGrid second.onGrid less positive own)
  · exact same
  · exact absurd own (not_contains_of_lt second.onGrid first.onGrid greater positive other)

end Telemetry.Decimal
