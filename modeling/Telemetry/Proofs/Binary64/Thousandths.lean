import Mathlib.Tactic.Lift
import Mathlib.Tactic.Ring
import Telemetry.Proofs.Binary64.Order

/-! The nearest thousandth of a number from zero to one. The number is multiplied by a thousand and rounded
twice, to a double and then to a whole number. The middle between two whole numbers is a double with an
even last digit, so the first rounding only matters within half a step below it, and both roundings
together are one division. -/
namespace Telemetry.Binary64
variable {num den m n p x y : Nat} {q r : Binary64}

/-- The nearest thousandth, a half going up. -/
def thousandths (q : Binary64) : Nat := (q * .ofNat 1000).roundWord

/-! ## Rounding to the grid -/

/-- An even number of steps is reached exactly from half a step below it on. -/
theorem le_divideToEven_iff (positive : 0 < den) (even : m % 2 = 0) :
    m ≤ divideToEven num den ↔ 2 * (m * den) ≤ 2 * num + den := by
  have division := Nat.div_add_mod' num den
  have remainder := Nat.mod_lt num positive
  have floor := le_divideToEven num den
  have ceiling := divideToEven_le num den
  rcases Nat.lt_trichotomy m (num / den + 1) with below | next | above
  · have scaled := Nat.mul_le_mul_right den (Nat.lt_succ_iff.mp below)
    omega
  · have scaled : m * den = num / den * den + den := by rw [next, Nat.succ_mul]
    rw [scaled]
    unfold divideToEven
    dsimp only
    split
    · omega
    · split <;> omega
  · have scaled := Nat.mul_le_mul_right den above
    rw [Nat.succ_mul, Nat.succ_mul] at scaled
    omega

/-- So is what an even number of steps makes up. -/
theorem le_rounded_iff (positive : 0 < den) (even : 2 * spacing (num / den) ∣ m) :
    m ≤ rounded num den ↔ 2 * (m * den) ≤ 2 * num + den * spacing (num / den) := by
  obtain ⟨k, rfl⟩ := even
  have step := spacing_pos (num / den)
  have steps : 2 * spacing (num / den) * k = 2 * k * spacing (num / den) := by
    rw [Nat.mul_right_comm]
  have scaled : 2 * k * spacing (num / den) * den = 2 * k * (den * spacing (num / den)) := by
    rw [Nat.mul_assoc, Nat.mul_comm den]
  rw [steps, rounded, Nat.mul_le_mul_right_iff step, scaled]
  exact le_divideToEven_iff (Nat.mul_pos positive step) (Nat.mul_mod_right 2 k)

private theorem divideToEven_close (positive : 0 < den) (num : Nat) :
    2 * (divideToEven num den * den) ≤ 2 * num + den ∧
      2 * num ≤ 2 * (divideToEven num den * den) + den := by
  have division := Nat.div_add_mod' num den
  have remainder := Nat.mod_lt num positive
  have next : (num / den + 1) * den = num / den * den + den := Nat.succ_mul _ _
  unfold divideToEven
  dsimp only
  split
  · omega
  · split
    · omega
    · rcases Nat.mod_two_eq_zero_or_one (num / den) with even | odd
      · rw [even, Nat.add_zero]
        omega
      · rw [odd]
        omega

/-- Rounding goes half a step at most. -/
theorem rounded_close (positive : 0 < den) (num : Nat) :
    2 * (rounded num den * den) ≤ 2 * num + den * spacing (num / den) ∧
      2 * num ≤ 2 * (rounded num den * den) + den * spacing (num / den) := by
  have scaled : rounded num den * den =
      divideToEven num (den * spacing (num / den)) * (den * spacing (num / den)) := by
    rw [rounded, Nat.mul_assoc, Nat.mul_comm den]
  rw [scaled]
  exact divideToEven_close (Nat.mul_pos positive (spacing_pos _)) num

/-! ## Spacings up to a thousand -/

private theorem spacing_dvd_two_pow (k : Nat) (below : p < 2 ^ (k + 53)) : spacing p ∣ 2 ^ k := by
  rw [spacing_eq]
  apply Nat.pow_dvd_pow
  by_cases zero : p = 0
  · subst zero
    simp
  · have log := (Nat.log2_lt zero).mpr below
    omega

/-- Up to a thousand, even many spacings go into the middle between two whole numbers. -/
theorem exists_half : ∃ half, unit = 2 * half ∧ ∀ p ≤ 1000 * unit, 2 ^ 26 * spacing p ∣ half := by
  obtain ⟨k, exponent⟩ : ∃ k, 1074 = k + 27 := ⟨1047, rfl⟩
  rw [unit, exponent]
  have thousand : 1000 * 2 ^ (k + 27) < 2 ^ (k + 53) := by
    rw [Nat.pow_add 2 k 53, Nat.pow_add 2 k 27]
    have := Nat.two_pow_pos k
    omega
  refine ⟨2 ^ (k + 26), ?_, fun p small => ?_⟩
  · rw [Nat.mul_comm, ← Nat.pow_succ]
  · rw [Nat.add_comm k 26, Nat.pow_add]
    exact Nat.mul_dvd_mul_left _ (spacing_dvd_two_pow k (Nat.lt_of_le_of_lt small thousand))

private theorem spacing_lt_unit (small : p ≤ 1000 * unit) : 2000 * spacing p < unit := by
  obtain ⟨half, halves, grid⟩ := exists_half
  have positive : 0 < unit := Decimal.unit_pos
  have least := Nat.le_of_dvd (by omega) (grid p small)
  omega

/-- What a number of whole quanta is rounded to reaches the middle below a whole number if it is half a
spacing away at most. -/
private theorem le_rounded_mul_unit_iff (small : p ≤ 1000 * unit) (n : Nat) :
    n * (2 * unit) ≤ 2 * rounded (p * unit) unit + unit ↔
      n * (2 * unit) ≤ 2 * p + spacing p + unit := by
  have positive : 0 < unit := Decimal.unit_pos
  have whole : p * unit / unit = p := Nat.mul_div_cancel p positive
  obtain ⟨half, halves, grid⟩ := exists_half
  cases n with
  | zero => simp
  | succ n =>
    have even : 2 * spacing (p * unit / unit) ∣ (2 * n + 1) * half := by
      rw [whole]
      exact Nat.dvd_mul_left_of_dvd
        (Nat.dvd_trans (Nat.mul_dvd_mul_right ⟨2 ^ 25, rfl⟩ _) (grid p small)) _
    have middle := le_rounded_iff positive even
    have left : 2 * ((2 * n + 1) * half * unit) = 2 * ((2 * n + 1) * half) * unit := by ring
    have right : 2 * (p * unit) + unit * spacing p = (2 * p + spacing p) * unit := by ring
    rw [whole, left, right, Nat.mul_le_mul_right_iff positive] at middle
    have split : (n + 1) * (2 * unit) = 2 * ((2 * n + 1) * half) + unit := by
      rw [halves]
      ring
    rw [split, Nat.add_le_add_iff_right, Nat.add_le_add_iff_right, ← middle]
    omega

/-! ## Thousandths -/

private theorem roundWord_round_negative (num den : Nat) : (round true num den).roundWord = 0 := by
  rcases round_cases true num den with ⟨_, -, same⟩ | ⟨-, same⟩ <;> rw [same] <;> rfl

private theorem roundWord_round (num den : Nat) :
    (round false num den).roundWord = min ((2 * rounded num den + unit) / (2 * unit)) largestWord := by
  rcases round_cases false num den with ⟨_, -, same⟩ | ⟨above, same⟩
  · rw [same]
    simp only [roundWord, Bool.false_eq_true, if_false]
  · have word : largestWord * (2 * unit) ≤ 2 * rounded num den + unit := by
      have cut : largestWord ≤ 2 ^ 64 := Nat.sub_le _ _
      have scaled := Nat.mul_le_mul_right unit cut
      have below := two_pow_mul_unit_lt (k := 64) (by decide)
      rw [Nat.mul_left_comm]
      omega
    have positive : 0 < 2 * unit := Nat.mul_pos (by decide) Decimal.unit_pos
    rw [same, Nat.min_eq_right ((Nat.le_div_iff_mul_le positive).mpr word)]
    simp only [roundWord, Bool.false_eq_true, if_false]

/-- Up to a thousand, rounding to a double and then to a whole number is a single division. -/
private theorem roundWord_round_mul_unit (small : p ≤ 1000 * unit) :
    (round false (p * unit) unit).roundWord = (2 * p + spacing p + unit) / (2 * unit) := by
  have positive : 0 < 2 * unit := Nat.mul_pos (by decide) Decimal.unit_pos
  have once : (2 * rounded (p * unit) unit + unit) / (2 * unit) =
      (2 * p + spacing p + unit) / (2 * unit) := by
    apply eq_of_forall_le_iff
    intro n
    rw [Nat.le_div_iff_mul_le positive, Nat.le_div_iff_mul_le positive]
    exact le_rounded_mul_unit_iff small n
  have few : (2 * p + spacing p + unit) / (2 * unit) < 1002 := by
    rw [Nat.div_lt_iff_lt_mul positive]
    have := spacing_lt_unit small
    omega
  have word : 1002 ≤ largestWord := by decide
  rw [roundWord_round, once, Nat.min_eq_left (by omega)]

/-- The nearest thousandth of a number from zero to one. -/
theorem thousandths_eq (known : q.value = some (x : Int)) (most : x ≤ unit) :
    q.thousandths = (2 * (1000 * x) + spacing (1000 * x) + unit) / (2 * unit) := by
  have small : 1000 * x ≤ 1000 * unit := Nat.mul_le_mul_left 1000 most
  have product (m : Nat) : m * (1000 * unit) = 1000 * m * unit := by ring
  have bounded : unit < limit := isDouble_unit.below
  unfold thousandths
  cases q with
  | nan => cases known
  | infinity s =>
    obtain beyond : (if s then -(limit : Int) else limit) = x := Option.some.inj known
    cases s <;> simp only [Bool.false_eq_true, if_true, if_false] at beyond <;> omega
  | finite s m double =>
    obtain own : (if s then -(m : Int) else m) = x := Option.some.inj known
    rw [finite_mul_ofNat s double (by decide), product]
    cases s with
    | false =>
      obtain rfl : m = x := Int.ofNat_inj.mp own
      exact roundWord_round_mul_unit small
    | true =>
      -- The negative zero is the only number here with a sign.
      simp only [if_true] at own
      obtain rfl : x = 0 := by omega
      have nothing := spacing_lt_unit small
      rw [roundWord_round_negative, Nat.div_eq_of_lt (by omega)]

private theorem thousandths_lt (first : q.value = some (x : Int)) (second : r.value = some (y : Int))
    (most : y ≤ unit) (apart : 1000 * x + unit ≤ 1000 * y) : q.thousandths < r.thousandths := by
  have positive : 0 < 2 * unit := Nat.mul_pos (by decide) Decimal.unit_pos
  have order : 1000 * x ≤ 1000 * y := Nat.le_of_add_right_le apart
  have spacings := Nat.le_of_dvd (spacing_pos _) (spacing_dvd_spacing order)
  rw [thousandths_eq first (by omega), thousandths_eq second most, ← Nat.succ_le_iff,
    Nat.le_div_iff_mul_le positive]
  have own := Nat.div_mul_le_self (2 * (1000 * x) + spacing (1000 * x) + unit) (2 * unit)
  rw [Nat.succ_mul]
  omega

/-- One number is less than another by a thousandth or more. -/
def ThousandthBelow (q r : Binary64) : Prop :=
  ∃ x y, q.value = some x ∧ r.value = some y ∧ 1000 * x + unit ≤ 1000 * y

/-- Numbers from zero to one that are a thousandth apart have different nearest thousandths. -/
theorem ThousandthBelow.thousandths_lt (apart : ThousandthBelow q r) (least : zero.le q = true)
    (most : r.le one = true) : q.thousandths < r.thousandths := by
  obtain ⟨x, y, first, second, step⟩ := apart
  obtain ⟨_, x', low, first', above⟩ := le_iff.mp least
  obtain ⟨y', _, second', high, below⟩ := le_iff.mp most
  rw [first] at first'
  rw [second] at second'
  cases first'
  cases second'
  obtain rfl := Option.some.inj low
  obtain rfl := Option.some.inj high
  simp only [Bool.false_eq_true, if_false, Int.natCast_zero] at above below
  lift x to Nat using above
  lift y to Nat using by omega
  exact Binary64.thousandths_lt first second (by omega) (by omega)

private theorem finite_div (s t : Bool) (first : IsDouble m) (second : IsDouble n) (nonzero : n ≠ 0) :
    Binary64.finite s m first / Binary64.finite t n second = round (s != t) (m * unit) n := by
  change div (.finite s m first) (.finite t n second) = _
  simp only [div, if_neg nonzero]

/-- A fraction that is at most a double is rounded to at most that double. -/
private theorem rounded_le (positive : 0 < den) (double : IsDouble m) (le : num ≤ m * den) :
    rounded num den ≤ m := by
  have whole : m * den / den = m := Nat.mul_div_cancel m positive
  have same : rounded (m * den) den = m := by
    rw [rounded, whole]
    exact divideToEven_of_dvd positive (spacing_pos m) double.onGrid
  exact same ▸ rounded_mono positive le

/-- What is written in thousandths is less than a quarter of one off. -/
private theorem exists_quanta_ofNat_div {k : Nat} (most : k ≤ 1000) : ∃ x : Nat,
    (ofNat k / ofNat 1000).value = some (x : Int) ∧ x ≤ unit ∧
      4 * (k * unit) < 4 * (1000 * x) + unit ∧ 4 * (1000 * x) < 4 * (k * unit) + unit := by
  have one : 0 < unit := Decimal.unit_pos
  have positive : 0 < 1000 * unit := Nat.mul_pos (by decide) one
  have below : k * unit * unit ≤ unit * (1000 * unit) := by
    rw [← Nat.mul_assoc, Nat.mul_comm unit]
    exact Nat.mul_le_mul_right _ (Nat.mul_le_mul_right _ most)
  have bounded : rounded (k * unit * unit) (1000 * unit) ≤ unit :=
    rounded_le positive isDouble_unit below
  have written : ofNat k / ofNat 1000 = round false (k * unit * unit) (1000 * unit) := by
    rw [ofNat_eq (Nat.le_trans most (by decide)), ofNat_eq (by decide),
      finite_div _ _ _ _ positive.ne', Bool.bne_false]
  have known : (ofNat k / ofNat 1000).value =
      some (rounded (k * unit * unit) (1000 * unit) : Int) := by
    have limited : unit < limit := isDouble_unit.below
    rw [written, value_round, Nat.min_eq_left (by omega)]
    rfl
  have quotient := Nat.div_le_div_right (c := 1000 * unit) below
  rw [Nat.mul_div_cancel unit positive] at quotient
  have few := spacing_lt_unit (p := k * unit * unit / (1000 * unit)) (by omega)
  obtain ⟨above, under⟩ := rounded_close positive (k * unit * unit)
  refine ⟨_, known, bounded, ?_⟩
  generalize rounded (k * unit * unit) (1000 * unit) = x at above under ⊢
  generalize spacing (k * unit * unit / (1000 * unit)) = step at above under few
  have least : 2 * (k * unit) ≤ 2 * (1000 * x) + 1000 * step := by
    apply Nat.le_of_mul_le_mul_right _ one
    calc 2 * (k * unit) * unit
        = 2 * (k * unit * unit) := by ring
      _ ≤ 2 * (x * (1000 * unit)) + 1000 * unit * step := under
      _ = (2 * (1000 * x) + 1000 * step) * unit := by ring
  have largest : 2 * (1000 * x) ≤ 2 * (k * unit) + 1000 * step := by
    apply Nat.le_of_mul_le_mul_right _ one
    calc 2 * (1000 * x) * unit
        = 2 * (x * (1000 * unit)) := by ring
      _ ≤ 2 * (k * unit * unit) + 1000 * unit * step := above
      _ = (2 * (k * unit) + 1000 * step) * unit := by ring
  omega

/-- A number that was written in thousandths has them. -/
theorem thousandths_ofNat_div {k : Nat} (most : k ≤ 1000) :
    (ofNat k / ofNat 1000).thousandths = k := by
  obtain ⟨x, known, bounded, least, largest⟩ := exists_quanta_ofNat_div most
  have little := spacing_lt_unit (Nat.mul_le_mul_left 1000 bounded)
  rw [thousandths_eq known bounded]
  -- Together with the half of a whole number, what is off does not reach the next one.
  apply Nat.div_eq_of_lt_le
  · rw [Nat.mul_left_comm k]
    omega
  · rw [Nat.succ_mul k, Nat.mul_left_comm k]
    omega

end Telemetry.Binary64
