import Telemetry.Proofs.Decimal.Shortest

/-! Rounding meets the intervals. What lies in the interval of a double is rounded to that double, so
the numbers that are said to round to it are those that do. -/
namespace Telemetry.Binary64
variable {num den m p q x : Nat}

/-- Whatever is within half a step of a number of steps is rounded to it, if the number is even or
neither end is met. -/
theorem divideToEven_eq (positive : 0 < den) (low : 2 * (m * den) ≤ 2 * num + den)
    (high : 2 * num ≤ 2 * (m * den) + den)
    (tie : 2 * (m * den) = 2 * num + den ∨ 2 * num = 2 * (m * den) + den → m % 2 = 0) :
    divideToEven num den = m := by
  have quotientOf {k : Nat} (least : k * den ≤ num) (most : num < k * den + den) :
      num / den = k ∧ num % den = num - k * den := by
    have quotient : num / den = k :=
      Nat.div_eq_of_lt_le least (by rwa [Nat.succ_mul])
    have division := Nat.div_add_mod' num den
    rw [quotient] at division
    exact ⟨quotient, by omega⟩
  -- What is rounded up has a quotient of one less; what is rounded down has the number itself.
  by_cases below : num < m * den
  · obtain ⟨k, rfl⟩ : ∃ k, m = k + 1 := Nat.exists_eq_succ_of_ne_zero (by rintro rfl; omega)
    have split : (k + 1) * den = k * den + den := Nat.succ_mul k den
    rw [split] at low high tie below
    obtain ⟨quotient, remainder⟩ := quotientOf (k := k) (by omega) below
    unfold divideToEven
    dsimp only
    rw [quotient, remainder]
    split
    · omega
    · split
      · rfl
      · have := tie (by omega)
        omega
  · obtain ⟨quotient, remainder⟩ := quotientOf (k := m) (by omega) (by omega)
    unfold divideToEven
    dsimp only
    rw [quotient, remainder]
    split
    · rfl
    · split
      · omega
      · have := tie (by omega)
        omega

/-- A double is rounded to from everywhere that its neighbourhood of steps says so. -/
theorem round_eq (negative : Bool) (double : IsDouble q) (positive : 0 < den)
    (steps : q = m * spacing (num / den))
    (low : 2 * (q * den) ≤ 2 * num + den * spacing (num / den))
    (high : 2 * num ≤ 2 * (q * den) + den * spacing (num / den))
    (tie : 2 * (q * den) = 2 * num + den * spacing (num / den) ∨
      2 * num = 2 * (q * den) + den * spacing (num / den) → m % 2 = 0) :
    round negative num den = .finite negative q double := by
  have scaled : q * den = m * (den * spacing (num / den)) := by
    rw [Nat.mul_left_comm, Nat.mul_comm, ← steps]
  rw [scaled] at low high tie
  have kept := divideToEven_eq (Nat.mul_pos positive (spacing_pos _)) low high tie
  have rounded : divideToEven num (den * spacing (num / den)) * spacing (num / den) = q := by
    rw [kept, ← steps]
  unfold round
  simp only [rounded]
  rw [dif_pos double.below]

/-! ## Spacings near a double -/

theorem spacing_eq_of_log2 (log : p.log2 = q.log2) : spacing p = spacing q := by
  rw [spacing_eq, spacing_eq, log]

/-- From the power of two below a double up to the next double, everything has the same spacing. -/
theorem spacing_eq_of_between (grid : spacing q ∣ q) (low : 2 ^ q.log2 ≤ x)
    (high : x < q + spacing q) : spacing x = spacing q := by
  have power := spacing_dvd_two_pow_log2 (2 ^ (q.log2 + 1))
  rw [Nat.log2_two_pow] at power
  have next := add_spacing_le grid power Nat.lt_log2_self
  exact spacing_eq_of_log2 (log2_eq_of_between low (by omega))

end Telemetry.Binary64

namespace Telemetry.Decimal
open Binary64
variable {num den q : Nat}

/-- Above a double, up to halfway to the next, everything has its spacing. -/
private theorem spacing_above (positive : 0 < den) (grid : spacing q ∣ q) (above : q * den ≤ num)
    (high : 2 * num ≤ 2 * (q * den) + den * spacing q) : spacing (num / den) = spacing q := by
  have least : q ≤ num / den := (Nat.le_div_iff_mul_le positive).mpr above
  have step := Nat.mul_pos positive (spacing_pos q)
  have most : num / den < q + spacing q := by
    rw [Nat.div_lt_iff_lt_mul positive, Nat.add_mul, Nat.mul_comm (spacing q)]
    omega
  by_cases zero : q = 0
  · have one : spacing q = 1 := by
      rw [zero]
      rfl
    have same : num / den = q := by omega
    rw [same]
  · exact spacing_eq_of_between grid (Nat.le_trans (Nat.log2_self_le zero) least) most

/-- Below a double that no power of two is, it is the same. -/
private theorem spacing_below (positive : 0 < den) (grid : spacing q ∣ q) (below : num < q * den)
    (low : 2 * (q * den) ≤ 2 * num + den * spacing q)
    (other : ¬ (1 < spacing q ∧ q = 2 ^ q.log2)) : spacing (num / den) = spacing q := by
  have most : num / den < q := (Nat.div_lt_iff_lt_mul positive).mpr below
  by_cases narrow : spacing q = 1
  · have divides := spacing_dvd_spacing (Nat.le_of_lt most)
    rw [narrow] at divides ⊢
    exact Nat.dvd_one.mp divides
  · have wide : 1 < spacing q := Nat.lt_of_le_of_ne (spacing_pos q) (Ne.symm narrow)
    have nonzero : q ≠ 0 := Nat.ne_of_gt (Nat.lt_of_le_of_lt (Nat.zero_le _) most)
    have above : 2 ^ q.log2 < q :=
      Nat.lt_of_le_of_ne (Nat.log2_self_le nonzero) fun same => other ⟨wide, same.symm⟩
    have fromPower := add_spacing_le (spacing_dvd_two_pow_log2 q) grid above
    rw [spacing_two_pow_log2] at fromPower
    have least : 2 ^ q.log2 ≤ num / den := by
      rw [Nat.le_div_iff_mul_le positive]
      have scaled := Nat.mul_le_mul_right den fromPower
      rw [Nat.add_mul, Nat.mul_comm (spacing q)] at scaled
      omega
    exact spacing_eq_of_between grid least (Nat.lt_add_right _ most)

/-- Below a power of two the spacing is half. -/
private theorem spacing_below_power (positive : 0 < den) (grid : spacing q ∣ q)
    (below : num < q * den) (low : 4 * (q * den) ≤ 4 * num + den * spacing q) (wide : 1 < spacing q)
    (power : q = 2 ^ q.log2) :
    2 * spacing (num / den) = spacing q ∧ q = 2 ^ 53 * spacing (num / den) := by
  have exponent : 53 ≤ q.log2 := by
    rcases Nat.lt_or_ge q.log2 53 with small | large
    · rw [spacing_eq, show q.log2 - 52 = 0 by omega] at wide
      omega
    · exact large
  have most : num / den < q := (Nat.div_lt_iff_lt_mul positive).mpr below
  have double : q = 2 * 2 ^ (q.log2 - 1) := by
    rw [← Nat.pow_succ', show (q.log2 - 1).succ = q.log2 by omega]
    exact power
  have step : spacing q ≤ q := Nat.le_of_dvd (Nat.lt_of_le_of_lt (Nat.zero_le _) most) grid
  have least : 2 ^ (q.log2 - 1) ≤ num / den := by
    rw [Nat.le_div_iff_mul_le positive]
    have scaled := Nat.mul_le_mul_left den step
    have whole : q * den = 2 * (2 ^ (q.log2 - 1) * den) := by
      rw [← Nat.mul_assoc, ← double]
    rw [Nat.mul_comm den q] at scaled
    omega
  have log : (num / den).log2 = q.log2 - 1 := by
    refine log2_eq_of_between least ?_
    rwa [Nat.pow_succ', ← double]
  have half : spacing (num / den) = 2 ^ (q.log2 - 53) := by
    rw [spacing_eq, log, show q.log2 - 1 - 52 = q.log2 - 53 by omega]
  refine ⟨?_, ?_⟩
  · rw [half, spacing_eq, ← Nat.pow_succ', show (q.log2 - 53).succ = q.log2 - 52 by omega]
  · rw [half, ← Nat.pow_add, show 53 + (q.log2 - 53) = q.log2 by omega]
    exact power

/-- **What lies in the interval of a double is rounded to it.** -/
theorem round_of_contains (negative : Bool) (double : IsDouble q) (positive : 0 < den)
    (contains : (roundingInterval q).Contains num den) :
    Binary64.round negative (num * unit) den = .finite negative q double := by
  obtain ⟨low, high⟩ := contains.bounds
  have closed := contains.closed_of_end
  have even : (roundingInterval q).closed = true → q / spacing q % 2 = 0 := of_decide_eq_true
  have steps : q = q / spacing q * spacing q := (Nat.div_mul_cancel double.onGrid).symm
  have step : 0 < den * spacing q := Nat.mul_pos positive (spacing_pos q)
  rw [show 4 * unit * num = 4 * (num * unit) by rw [Nat.mul_assoc, Nat.mul_comm unit]] at low high closed
  have turned : spacing q * den = den * spacing q := Nat.mul_comm _ _
  have highEnd : (roundingInterval q).high * den = 4 * (q * den) + 2 * (den * spacing q) := by
    rw [roundingInterval_high, Nat.add_mul, Nat.mul_assoc, Nat.mul_assoc, turned]
  rw [highEnd] at high closed
  generalize num * unit = scaled at low high closed ⊢
  -- The spacing that counts is the one where the number lies, which is that of the double except
  -- below a power of two. There the double is an even number of half steps, so ties are no matter.
  by_cases above : q * den ≤ scaled
  · have same := spacing_above positive double.onGrid above (by omega)
    refine round_eq negative double positive (by rwa [same]) ?_ ?_ ?_
    · omega
    · rw [same]
      omega
    · intro tie
      rw [same] at tie
      exact even (closed (.inr (by omega)))
  · have nonzero : 0 < q := Nat.pos_of_ne_zero fun zero =>
      above (by rw [zero, Nat.zero_mul]; exact Nat.zero_le _)
    have below : scaled < q * den := Nat.lt_of_not_le above
    have small := Nat.mul_le_mul_left den (Nat.le_of_dvd nonzero double.onGrid)
    rw [Nat.mul_comm den q] at small
    rcases roundingInterval_low q with ⟨wide, power, lowEnd⟩ | ⟨other, lowEnd⟩
    · rw [lowEnd, Nat.sub_mul, Nat.mul_assoc, turned] at low
      obtain ⟨half, steps⟩ :=
        spacing_below_power positive double.onGrid below (by omega) wide power
      have halved : den * spacing q = 2 * (den * spacing (scaled / den)) := by
        rw [← half, Nat.mul_left_comm]
      exact round_eq negative double positive steps (by omega) (by omega) fun _ => by decide
    · rw [lowEnd, Nat.sub_mul, Nat.mul_assoc, Nat.mul_assoc, turned] at low closed
      have same := spacing_below positive double.onGrid below (by omega) other
      refine round_eq negative double positive (by rwa [same]) ?_ ?_ ?_
      · rw [same]
        omega
      · omega
      · intro tie
        rw [same] at tie
        exact even (closed (.inl (by omega)))

end Telemetry.Decimal
