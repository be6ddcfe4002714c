import Telemetry.Proofs.Decimal.Interval

/-! The search for the shortest decimal ends, and ends inside the interval of the double it is for:
the grid of seventeen digits is finer than the interval is wide. -/
namespace Telemetry.Decimal
open Binary64

/-- The whole number over a power of ten that a decimal is. -/
def numerator (d : Decimal) : Nat := d.digits * 10 ^ d.exponent.toNat

/-- The power of ten under it. -/
def denominator (d : Decimal) : Nat := 10 ^ (-d.exponent).toNat

theorem unit_pos : 0 < unit := by
  rw [unit]
  exact Nat.two_pow_pos 1074

/-! ## Lengths -/

private theorem lt_pow_length (n : Nat) : n < 10 ^ length n := by
  fun_induction length n with
  | case1 => decide
  | case2 n positive ih =>
    rw [Nat.pow_succ]
    omega

theorem pow_length_le (positive : n ≠ 0) : 10 ^ (length n - 1) ≤ n := by
  fun_induction length n with
  | case1 => exact absurd rfl positive
  | case2 n _ ih =>
    rw [Nat.add_sub_cancel]
    by_cases single : n / 10 = 0
    · rw [single, length]
      simp
      omega
    · have prefixed := ih single
      have shorter : length (n / 10) = length (n / 10) - 1 + 1 := by
        have : length (n / 10) ≠ 0 := by
          rw [length, if_neg single]
          omega
        omega
      rw [shorter, Nat.pow_succ]
      omega

/-- A number is at least one in its leading decimal place. -/
private theorem leadingExponent_le (positive : 0 < quanta) :
    unit * 10 ^ (leadingExponent quanta).toNat ≤ quanta * 10 ^ (-leadingExponent quanta).toNat := by
  unfold leadingExponent
  split
  · rename_i large
    have nonzero : quanta / unit ≠ 0 := by
      have := Nat.div_pos large unit_pos
      omega
    have place := pow_length_le nonzero
    have up : ((length (quanta / unit) : Int) - 1).toNat = length (quanta / unit) - 1 := by omega
    have length_pos : length (quanta / unit) ≠ 0 := by
      rw [length, if_neg nonzero]
      omega
    have down : (-((length (quanta / unit) : Int) - 1)).toNat = 0 := by omega
    rw [up, down, Nat.pow_zero, Nat.mul_one]
    exact Nat.le_trans (Nat.mul_le_mul_left unit place) (Nat.mul_div_le quanta unit)
  · rename_i small
    have place := lt_pow_length ((unit - 1) / quanta)
    have up : (-(length ((unit - 1) / quanta) : Int)).toNat = 0 := by omega
    have down : (-(-(length ((unit - 1) / quanta) : Int))).toNat = length ((unit - 1) / quanta) := by
      omega
    rw [up, down, Nat.pow_zero, Nat.mul_one]
    have := Nat.lt_mul_of_div_lt place positive
    rw [Nat.mul_comm] at this
    omega

/-! ## One grid -/

section Grid
variable {tie : Tie} {interval : RoundingInterval} {exponent : Int} {point : Nat}

/-- The test of the search: whether a point of a grid lies in an interval. -/
def stands (interval : RoundingInterval) (exponent : Int) (point : Nat) : Bool :=
  let scale := 10 ^ (-exponent).toNat
  let cell := 4 * unit * 10 ^ exponent.toNat
  if interval.closed then interval.low * scale ≤ point * cell ∧ point * cell ≤ interval.high * scale
  else interval.low * scale < point * cell ∧ point * cell < interval.high * scale

theorem stands_iff : stands interval exponent point = true ↔
    interval.Contains (point * 10 ^ exponent.toNat) (10 ^ (-exponent).toNat) := by
  have scaled : point * (4 * unit * 10 ^ exponent.toNat) =
      4 * unit * (point * 10 ^ exponent.toNat) := Nat.mul_left_comm _ _ _
  simp only [stands, RoundingInterval.Contains, scaled]
  split <;> simp

/-- The point of a grid at a number, or just below it. -/
def pointBelow (interval : RoundingInterval) (exponent : Int) : Nat :=
  interval.value * 10 ^ (-exponent).toNat / (4 * unit * 10 ^ exponent.toNat)

/-- The search takes a point that stands for the number, and fails only if neither does. -/
private theorem onGrid?_cases (tie : Tie) (interval : RoundingInterval) (exponent : Int) :
    (∃ point, onGrid? tie interval exponent = some point ∧ stands interval exponent point = true) ∨
      onGrid? tie interval exponent = none ∧
        stands interval exponent (pointBelow interval exponent) = false ∧
        stands interval exponent (pointBelow interval exponent + 1) = false := by
  unfold onGrid?
  dsimp only
  split
  case h_1 below above => exact .inr ⟨rfl, below, above⟩
  case h_2 below above => exact .inl ⟨_, rfl, below⟩
  case h_3 below above => exact .inl ⟨_, rfl, above⟩
  case h_4 below above =>
    left
    split
    · exact ⟨_, rfl, below⟩
    · split
      · exact ⟨_, rfl, above⟩
      · cases tie with
        | upward => exact ⟨_, rfl, above⟩
        | toEven =>
          refine ⟨_, rfl, ?_⟩
          change stands interval exponent
            (pointBelow interval exponent + pointBelow interval exponent % 2) = true
          rcases Nat.mod_two_eq_zero_or_one (pointBelow interval exponent) with even | odd
          · rw [even]
            exact below
          · rw [odd]
            exact above

private theorem stands_of_between
    (above : interval.low * 10 ^ (-exponent).toNat < point * (4 * unit * 10 ^ exponent.toNat))
    (below : point * (4 * unit * 10 ^ exponent.toNat) < interval.high * 10 ^ (-exponent).toNat) :
    stands interval exponent point = true := by
  unfold stands
  split
  · exact decide_eq_true ⟨Nat.le_of_lt above, Nat.le_of_lt below⟩
  · exact decide_eq_true ⟨above, below⟩

/-- On a grid that is finer than the interval is wide, one of the two points beside the number stands
for it. -/
private theorem stands_of_fine (below : interval.low < interval.value)
    (above : interval.value < interval.high)
    (fine : 4 * unit * 10 ^ exponent.toNat <
      (interval.high - interval.low) * 10 ^ (-exponent).toNat) :
    stands interval exponent (pointBelow interval exponent) = true ∨
      stands interval exponent (pointBelow interval exponent + 1) = true := by
  have scalePos : 0 < 10 ^ (-exponent).toNat := Nat.pow_pos (by decide)
  have cellPos : 0 < 4 * unit * 10 ^ exponent.toNat :=
    Nat.mul_pos (Nat.mul_pos (by decide) unit_pos) (Nat.pow_pos (by decide))
  have lowSide := Nat.mul_lt_mul_of_pos_right below scalePos
  have highSide := Nat.mul_lt_mul_of_pos_right above scalePos
  rw [Nat.sub_mul] at fine
  have remainder := Nat.mod_lt (interval.value * 10 ^ (-exponent).toNat) cellPos
  have division := Nat.div_add_mod' (interval.value * 10 ^ (-exponent).toNat)
    (4 * unit * 10 ^ exponent.toNat)
  rw [← pointBelow] at division
  by_cases inside : interval.low * 10 ^ (-exponent).toNat <
      pointBelow interval exponent * (4 * unit * 10 ^ exponent.toNat)
  · exact .inl (stands_of_between inside (by omega))
  · refine .inr (stands_of_between ?_ ?_)
    · rw [Nat.succ_mul]
      omega
    · rw [Nat.succ_mul]
      omega

end Grid

/-! ## The whole search -/

theorem spacing_le (positive : 0 < quanta) (grid : spacing quanta ∣ quanta) :
    spacing quanta ≤ quanta := Nat.le_of_dvd positive grid

private theorem roundingInterval_around (positive : 0 < quanta) :
    (roundingInterval quanta).low < (roundingInterval quanta).value ∧
      (roundingInterval quanta).value < (roundingInterval quanta).high := by
  have value : (roundingInterval quanta).value = 4 * quanta := rfl
  have step := spacing_pos quanta
  rw [roundingInterval_high, value]
  rcases roundingInterval_low quanta with ⟨-, -, low⟩ | ⟨-, low⟩
  · omega
  · omega

private theorem lt_spacing_mul (quanta : Nat) : quanta < 2 ^ 53 * spacing quanta := by
  rw [spacing_eq, ← Nat.pow_add]
  exact Nat.lt_of_lt_of_le Nat.lt_log2_self (Nat.pow_le_pow_right (by decide) (by omega))

/-- Sixteen decimal places below its first one, a number is less than its interval is wide. -/
private theorem lt_width (positive : 0 < quanta) (grid : spacing quanta ∣ quanta) :
    4 * quanta < 10 ^ 16 * ((roundingInterval quanta).high - (roundingInterval quanta).low) := by
  have step := spacing_le positive grid
  rw [roundingInterval_high]
  rcases roundingInterval_low quanta with ⟨wide, power, low⟩ | ⟨-, low⟩
  · have kept : quanta = 2 ^ 52 * spacing quanta := by
      have exponent : 52 ≤ quanta.log2 := by
        rcases Nat.lt_or_ge quanta.log2 52 with small | large
        · rw [spacing_eq, show quanta.log2 - 52 = 0 by omega] at wide
          omega
        · exact large
      rw [spacing_eq, ← Nat.pow_add, show 52 + (quanta.log2 - 52) = quanta.log2 by omega]
      exact power
    rw [low]
    omega
  · have kept := lt_spacing_mul quanta
    rw [low]
    omega

private theorem fine_of_seventeen (positive : 0 < quanta) (grid : spacing quanta ∣ quanta) :
    4 * unit * 10 ^ (leadingExponent quanta - 16).toNat <
      ((roundingInterval quanta).high - (roundingInterval quanta).low) *
        10 ^ (-(leadingExponent quanta - 16)).toNat := by
  have leading := leadingExponent_le positive
  have width := lt_width positive grid
  generalize leadingExponent quanta = first at leading ⊢
  generalize (roundingInterval quanta).high - (roundingInterval quanta).low = wide at width ⊢
  have places : 10 ^ (first - 16).toNat * 10 ^ 16 * 10 ^ (-first).toNat =
      10 ^ first.toNat * 10 ^ (-(first - 16)).toNat := by
    rw [← Nat.pow_add, ← Nat.pow_add, ← Nat.pow_add]
    congr 1
    omega
  have scaled : 4 * unit * 10 ^ (first - 16).toNat * 10 ^ 16 ≤
      4 * quanta * 10 ^ (-(first - 16)).toNat := by
    refine Nat.le_of_mul_le_mul_right ?_ (Nat.pow_pos (n := (-first).toNat) (show 0 < 10 by decide))
    calc
      4 * unit * 10 ^ (first - 16).toNat * 10 ^ 16 * 10 ^ (-first).toNat =
          4 * unit * (10 ^ (first - 16).toNat * 10 ^ 16 * 10 ^ (-first).toNat) := by
        simp only [Nat.mul_assoc]
      _ = 4 * (unit * 10 ^ first.toNat) * 10 ^ (-(first - 16)).toNat := by
        rw [places]
        simp only [Nat.mul_assoc]
      _ ≤ 4 * (quanta * 10 ^ (-first).toNat) * 10 ^ (-(first - 16)).toNat :=
        Nat.mul_le_mul_right _ (Nat.mul_le_mul_left 4 leading)
      _ = 4 * quanta * 10 ^ (-(first - 16)).toNat * 10 ^ (-first).toNat := by
        simp only [Nat.mul_assoc, Nat.mul_comm (10 ^ (-first).toNat)]
  have strict := Nat.mul_lt_mul_of_pos_right width
    (Nat.pow_pos (n := (-(first - 16)).toNat) (show 0 < 10 by decide))
  refine Nat.lt_of_mul_lt_mul_right (a := 10 ^ 16) ?_
  calc
    4 * unit * 10 ^ (first - 16).toNat * 10 ^ 16 ≤ 4 * quanta * 10 ^ (-(first - 16)).toNat := scaled
    _ < 10 ^ 16 * wide * 10 ^ (-(first - 16)).toNat := strict
    _ = wide * 10 ^ (-(first - 16)).toNat * 10 ^ 16 := by
      rw [Nat.mul_assoc, Nat.mul_comm]

/-- Leaving zeros out at the end of the digits changes how a decimal is written, not what it is. -/
theorem stripZeros_spec (count : Nat) (place : Int) :
    ∃ zeros : Nat, count = (stripZeros count place).digits * 10 ^ zeros ∧
      (stripZeros count place).exponent = place + zeros := by
  fun_induction stripZeros count place with
  | case1 count place more ih =>
    obtain ⟨zeros, value, moved⟩ := ih
    refine ⟨zeros + 1, ?_, by omega⟩
    rw [Nat.pow_succ, ← Nat.mul_assoc, ← value]
    omega
  | case2 count place _ => exact ⟨0, by simp⟩

theorem contains_mul_iff {interval : RoundingInterval} (positive : 0 < factor) :
    interval.Contains (num * factor) (den * factor) ↔ interval.Contains num den := by
  unfold RoundingInterval.Contains
  simp only [← Nat.mul_assoc, Nat.mul_le_mul_right_iff positive, Nat.mul_lt_mul_right positive]

/-- Zeros behind the digits and a place that is smaller by as many make up for one another. -/
theorem contains_zeros_iff {interval : RoundingInterval} {digits zeros : Nat} {place : Int} :
    interval.Contains (digits * 10 ^ zeros * 10 ^ place.toNat) (10 ^ (-place).toNat) ↔
      interval.Contains (digits * 10 ^ (place + zeros).toNat) (10 ^ (-(place + zeros)).toNat) := by
  have up : 10 ^ zeros * 10 ^ place.toNat = 10 ^ (place + zeros).toNat *
      10 ^ ((-place).toNat - (-(place + zeros)).toNat) := by
    rw [← Nat.pow_add, ← Nat.pow_add]
    congr 1
    omega
  have down : 10 ^ (-place).toNat = 10 ^ (-(place + zeros)).toNat *
      10 ^ ((-place).toNat - (-(place + zeros)).toNat) := by
    rw [← Nat.pow_add]
    congr 1
    omega
  rw [Nat.mul_assoc, up, down, ← Nat.mul_assoc]
  exact contains_mul_iff (Nat.pow_pos (by decide))

private theorem contains_stripZeros {interval : RoundingInterval} {count : Nat} {place : Int}
    (contains : interval.Contains (count * 10 ^ place.toNat) (10 ^ (-place).toNat)) :
    interval.Contains (numerator (stripZeros count place)) (denominator (stripZeros count place)) := by
  obtain ⟨zeros, digits, moved⟩ := stripZeros_spec count place
  rw [digits] at contains
  rw [numerator, denominator, moved]
  exact contains_zeros_iff.mp contains

/-- The shortest decimal of a double rounds to that double: the search finds one within seventeen
digits, and takes none that rounds to another. -/
theorem contains_shortest (tie : Tie) (positive : 0 < quanta) (grid : spacing quanta ∣ quanta) :
    (roundingInterval quanta).Contains (numerator (shortest tie quanta))
      (denominator (shortest tie quanta)) := by
  unfold shortest
  dsimp only
  generalize search : (List.range mostDigits).findSome? _ = found
  cases found with
  | some d =>
    obtain ⟨n, -, point⟩ := List.exists_of_findSome?_eq_some search
    obtain ⟨digits, onGrid, rfl⟩ := Option.map_eq_some_iff.mp point
    refine contains_stripZeros (stands_iff.mp ?_)
    rcases onGrid?_cases tie (roundingInterval quanta) (leadingExponent quanta - n) with
      ⟨taken, same, stand⟩ | ⟨none, -⟩
    · rw [onGrid] at same
      cases same
      exact stand
    · rw [onGrid] at none
      cases none
  | none =>
    have last := List.findSome?_eq_none_iff.mp search 16 (by decide)
    rcases onGrid?_cases tie (roundingInterval quanta) (leadingExponent quanta - (16 : Nat)) with
      ⟨taken, same, -⟩ | ⟨-, below, above⟩
    · rw [same] at last
      cases last
    · obtain ⟨lowSide, highSide⟩ := roundingInterval_around positive
      rcases stands_of_fine lowSide highSide (fine_of_seventeen positive grid) with stand | stand
      · exact absurd stand (by simpa using below)
      · exact absurd stand (by simpa using above)

end Telemetry.Decimal
