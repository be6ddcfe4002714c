import Telemetry.Proofs.Decimal.Rounding

/-! The order of numbers, and arithmetic that keeps it. Rounding does, since between two spacings there is
a power of two that both of them divide; so multiplying by a natural does, and so does going up to a
whole number. -/
namespace Telemetry.Binary64
variable {num den m n x y : Nat} {a b c : Binary64}

/-! ## The order of numbers -/

theorem le_iff : a.le b = true ↔ ∃ x y, a.value = some x ∧ b.value = some y ∧ x ≤ y := by
  unfold le
  cases a.value <;> cases b.value <;> simp

theorem value_zero : zero.value = some 0 := rfl

theorem value_one : one.value = some (unit : Int) := rfl

theorem le_iff_of_value {x y : Int} (left : a.value = some x) (right : b.value = some y) :
    a.le b = true ↔ x ≤ y := by
  rw [le, left, right, decide_eq_true_iff]

/-- One number is less than another. -/
def Below (a b : Binary64) : Prop := ∃ x y, a.value = some x ∧ b.value = some y ∧ x < y

theorem sameValue_iff : a.sameValue b = true ↔ ∃ x, a.value = some x ∧ b.value = some x := by
  unfold sameValue
  cases a.value <;> cases b.value <;> simp [eq_comm]

theorem Below.trans_le (first : Below a b) (second : b.le c = true) : Below a c := by
  obtain ⟨x, y, left, middle, below⟩ := first
  obtain ⟨y', z, middle', right, above⟩ := le_iff.mp second
  rw [middle] at middle'
  cases middle'
  exact ⟨x, z, left, right, Int.lt_of_lt_of_le below above⟩

/-- Of two numbers in order, the first is below the second unless they are the same. -/
theorem below_of_le (le : a.le b = true) (apart : ¬ a.sameValue b = true) : Below a b := by
  obtain ⟨x, y, left, right, order⟩ := le_iff.mp le
  have other : x ≠ y := by
    rintro rfl
    exact apart (sameValue_iff.mpr ⟨x, left, right⟩)
  exact ⟨x, y, left, right, by omega⟩

theorem Below.not_sameValue (below : Below a b) : ¬ a.sameValue b = true := by
  obtain ⟨x, y, left, right, less⟩ := below
  intro same
  obtain ⟨z, first, second⟩ := sameValue_iff.mp same
  rw [left] at first
  rw [right] at second
  cases first
  cases second
  exact Int.lt_irrefl _ less

/-- The place of a number is twice its value or the one after. -/
theorem place_bounds {x : Int} (known : a.value = some x) :
    2 * x ≤ a.place ∧ a.place ≤ 2 * x + 1 := by
  cases a with
  | nan => cases known
  | infinity s =>
    obtain rfl : (if s then -(limit : Int) else limit) = x := Option.some.inj known
    cases s <;> simp only [place, Bool.false_eq_true, if_true, if_false] <;> omega
  | finite s m double =>
    obtain rfl : (if s then -(m : Int) else m) = x := Option.some.inj known
    cases s <;> simp only [place, Bool.false_eq_true, if_true, if_false] <;> omega

/-- The total order agrees with the order of the values. -/
theorem le_of_placedBefore {x y : Int} (left : a.value = some x) (right : b.value = some y)
    (before : a.placedBefore b = true) : a.le b = true := by
  have order : a.place ≤ b.place := of_decide_eq_true before
  have first := place_bounds left
  have second := place_bounds right
  exact le_iff.mpr ⟨x, y, left, right, by omega⟩

theorem Below.ne (below : Below a b) : a ≠ b := by
  rintro rfl
  obtain ⟨x, y, left, right, less⟩ := below
  rw [left] at right
  cases right
  exact Int.lt_irrefl _ less

theorem Below.placedBefore (below : Below a b) : a.placedBefore b = true := by
  obtain ⟨x, y, left, right, less⟩ := below
  have first := place_bounds left
  have second := place_bounds right
  exact decide_eq_true (by omega)

theorem placedBefore_trans (a b c : Binary64) (first : a.placedBefore b = true)
    (second : b.placedBefore c = true) : a.placedBefore c = true :=
  decide_eq_true (Int.le_trans (of_decide_eq_true first) (of_decide_eq_true second))

theorem placedBefore_total (a b : Binary64) : (a.placedBefore b || b.placedBefore a) = true := by
  rw [Bool.or_eq_true]
  rcases Int.le_total a.place b.place with before | behind
  · exact .inl (decide_eq_true before)
  · exact .inr (decide_eq_true behind)

/-- Numbers from zero to one are finite. -/
theorem isFinite_of_le (least : zero.le a = true) (most : a.le one = true) : a.isFinite = true := by
  obtain ⟨_, x, low, known, above⟩ := le_iff.mp least
  obtain ⟨x', _, known', high, below⟩ := le_iff.mp most
  rw [known] at known'
  cases known'
  obtain rfl := Option.some.inj low
  obtain rfl := Option.some.inj high
  have bounded : unit < limit := isDouble_unit.below
  cases a with
  | nan => cases known
  | infinity s =>
    obtain rfl : (if s then -(limit : Int) else limit) = x := Option.some.inj known
    cases s <;> simp only [Bool.false_eq_true, if_true, if_false] at above below <;> omega
  | finite => rfl

/-! ## Rounding -/

theorem le_divideToEven (num den : Nat) : num / den ≤ divideToEven num den := by
  unfold divideToEven
  dsimp only
  split
  · exact Nat.le_refl _
  · split <;> omega

private theorem divideToEven_mono (den : Nat) (le : x ≤ y) :
    divideToEven x den ≤ divideToEven y den := by
  have quotients : x / den ≤ y / den := Nat.div_le_div_right le
  rcases Nat.lt_or_ge (x / den) (y / den) with apart | together
  · have above := divideToEven_le x den
    have below := le_divideToEven y den
    omega
  · have same : x / den = y / den := Nat.le_antisymm quotients together
    have first := Nat.div_add_mod x den
    have second := Nat.div_add_mod y den
    rw [same] at first
    have remainders : x % den ≤ y % den := by omega
    unfold divideToEven
    dsimp only
    rw [same]
    -- Each remainder is below half of the divisor, above it, or just half.
    repeat' split
    all_goals omega

private theorem divideToEven_mul (positive : 0 < den) (m : Nat) : divideToEven (m * den) den = m := by
  apply divideToEven_eq positive
  · omega
  · omega
  · intro tie
    omega

/-- The quanta that a fraction of quanta is rounded to. -/
def rounded (num den : Nat) : Nat :=
  divideToEven num (den * spacing (num / den)) * spacing (num / den)

private theorem rounded_zero (den : Nat) : rounded 0 den = 0 := by
  simp [rounded, divideToEven]

/-- What is on the grid of a fraction is rounded to itself. -/
theorem divideToEven_of_dvd (positive : 0 < den) {step : Nat} (steps : 0 < step) (grid : step ∣ m) :
    divideToEven (m * den) (den * step) * step = m := by
  obtain ⟨k, rfl⟩ := grid
  have scaled : step * k * den = k * (den * step) := by
    rw [Nat.mul_comm step k, Nat.mul_assoc, Nat.mul_comm step den]
  rw [scaled, divideToEven_mul (Nat.mul_pos positive steps), Nat.mul_comm]

/-- From the power of two below a number on, there is one spacing up to that number. -/
private theorem spacing_eq_of_le (low : 2 ^ n.log2 ≤ m) (le : m ≤ n) : spacing m = spacing n := by
  have high : m < 2 ^ (n.log2 + 1) := Nat.lt_of_le_of_lt le Nat.lt_log2_self
  exact spacing_eq_of_log2 (log2_eq_of_between low high)

/-- Rounding keeps the order. -/
theorem rounded_mono (positive : 0 < den) (le : x ≤ y) : rounded x den ≤ rounded y den := by
  have quotients : x / den ≤ y / den := Nat.div_le_div_right le
  by_cases same : spacing (x / den) = spacing (y / den)
  · unfold rounded
    rw [same]
    exact Nat.mul_le_mul_right _ (divideToEven_mono _ le)
  · -- With different spacings the power of two below the larger fraction lies between the two, and
    -- both spacings divide it.
    have nonzero : y / den ≠ 0 := by
      intro zero
      rw [zero] at quotients same
      exact same (congrArg spacing (Nat.le_zero.mp quotients))
    have small : x / den < 2 ^ (y / den).log2 :=
      Nat.lt_of_not_le fun low => same (spacing_eq_of_le low quotients)
    have gridAbove : spacing (y / den) ∣ 2 ^ (y / den).log2 := by
      have own := spacing_dvd_two_pow_log2 (y / den)
      rwa [spacing_two_pow_log2] at own
    have gridBelow : spacing (x / den) ∣ 2 ^ (y / den).log2 :=
      Nat.dvd_trans (spacing_dvd_spacing quotients) gridAbove
    have below : x ≤ 2 ^ (y / den).log2 * den :=
      Nat.le_of_lt ((Nat.div_lt_iff_lt_mul positive).mp small)
    have above : 2 ^ (y / den).log2 * den ≤ y :=
      (Nat.le_div_iff_mul_le positive).mp (Nat.log2_self_le nonzero)
    calc rounded x den
        ≤ divideToEven (2 ^ (y / den).log2 * den) (den * spacing (x / den)) * spacing (x / den) :=
          Nat.mul_le_mul_right _ (divideToEven_mono _ below)
      _ = 2 ^ (y / den).log2 := divideToEven_of_dvd positive (spacing_pos _) gridBelow
      _ = divideToEven (2 ^ (y / den).log2 * den) (den * spacing (y / den)) * spacing (y / den) :=
          (divideToEven_of_dvd positive (spacing_pos _) gridAbove).symm
      _ ≤ rounded y den := Nat.mul_le_mul_right _ (divideToEven_mono _ above)

/-- What is rounded is finite below the limit, and beyond it infinite. -/
theorem round_cases (negative : Bool) (num den : Nat) :
    (∃ double, rounded num den < limit ∧
      round negative num den = .finite negative (rounded num den) double) ∨
    limit ≤ rounded num den ∧ round negative num den = .infinity negative := by
  unfold rounded round
  dsimp only
  split
  · rename_i below
    exact .inl ⟨⟨spacing_dvd_rounded num den, below⟩, below, rfl⟩
  · rename_i above
    exact .inr ⟨Nat.le_of_not_lt above, rfl⟩

theorem value_round (negative : Bool) (num den : Nat) :
    (round negative num den).value =
      some (if negative then -((min (rounded num den) limit : Nat) : Int)
        else (min (rounded num den) limit : Nat)) := by
  rcases round_cases negative num den with ⟨double, below, same⟩ | ⟨above, same⟩
  · rw [same, Nat.min_eq_left (Nat.le_of_lt below)]
    rfl
  · rw [same, Nat.min_eq_right above]
    rfl

/-! ## Naturals -/

theorem two_pow_mul_unit_lt {k : Nat} (small : k < 1024) : 2 ^ k * unit < limit := by
  rw [unit, limit, ← Nat.pow_add 2 k 1074]
  exact Nat.pow_lt_pow_of_lt (a := 2) (n := k + 1074) (m := 2098) (by decide) (by omega)

theorem isDouble_ofNat (small : n ≤ 2 ^ 53) : IsDouble (n * unit) := by
  refine ⟨?_, ?_⟩
  · rw [unit]
    exact spacing_dvd_scaled small 1074
  · exact Nat.lt_of_le_of_lt (Nat.mul_le_mul_right unit small) (two_pow_mul_unit_lt (by decide))

/-- A double is rounded to itself. -/
theorem round_whole (negative : Bool) (double : IsDouble m) :
    round negative m 1 = .finite negative m double := by
  have whole : m / 1 = m := Nat.div_one m
  have positive := spacing_pos m
  apply round_eq negative double Nat.one_pos (m := m / spacing m)
  · rw [whole]
    exact (Nat.div_mul_cancel double.onGrid).symm
  · omega
  · omega
  · intro tie
    rw [whole] at tie
    omega

/-- Naturals of fifty-three binary digits are doubles. -/
theorem ofNat_eq (small : n ≤ 2 ^ 53) :
    ofNat n = .finite false (n * unit) (isDouble_ofNat small) :=
  round_whole false (isDouble_ofNat small)

private theorem finite_mul (s t : Bool) (first : IsDouble m) (second : IsDouble n) :
    Binary64.finite s m first * Binary64.finite t n second = round (s != t) (m * n) unit := by
  change mul (.finite s m first) (.finite t n second) = _
  simp only [mul]

/-- A finite number times a natural. -/
theorem finite_mul_ofNat (negative : Bool) (double : IsDouble m) (small : n ≤ 2 ^ 53) :
    Binary64.finite negative m double * ofNat n = round negative (m * (n * unit)) unit := by
  rw [ofNat_eq small, finite_mul, Bool.bne_false]

private theorem value_finite (negative : Bool) (double : IsDouble m) :
    (Binary64.finite negative m double).value = some (if negative then -(m : Int) else m) := rfl

/-- Multiplying by a natural keeps the order of finite numbers. -/
theorem mul_ofNat_le (first : a.isFinite = true) (second : b.isFinite = true) (small : n ≤ 2 ^ 53)
    (le : a.le b = true) : (a * ofNat n).le (b * ofNat n) = true := by
  cases a with
  | nan => cases first
  | infinity s => cases first
  | finite s p firstDouble =>
    cases b with
    | nan => cases second
    | infinity t => cases second
    | finite t q secondDouble =>
      obtain ⟨x, y, left, right, order⟩ := le_iff.mp le
      rw [value_finite] at left right
      rw [finite_mul_ofNat s firstDouble small, finite_mul_ofNat t secondDouble small]
      apply le_iff.mpr
      refine ⟨_, _, value_round _ _ _, value_round _ _ _, ?_⟩
      have scale {x y : Nat} (le : x ≤ y) : min (rounded (x * (n * unit)) unit) limit ≤
          min (rounded (y * (n * unit)) unit) limit := by
        have grown := rounded_mono Decimal.unit_pos (Nat.mul_le_mul_right (n * unit) le)
        omega
      -- A number that is not negative is at most a negative one only where both are zero.
      cases s <;> cases t
      all_goals
        simp only [Bool.false_eq_true, if_true, if_false, Option.some.injEq] at left right ⊢
        subst left right
      case false.false =>
        have := scale (x := p) (y := q) (by omega)
        omega
      case false.true =>
        obtain rfl : p = 0 := by omega
        obtain rfl : q = 0 := by omega
        rw [Nat.zero_mul, rounded_zero]
        omega
      case true.false => omega
      case true.true =>
        have := scale (x := q) (y := p) (by omega)
        omega

/-! ## Whole numbers -/

private theorem largestWord_le : largestWord ≤ (limit + (unit - 1)) / unit := by
  have positive : 0 < unit := Decimal.unit_pos
  rw [Nat.le_div_iff_mul_le positive]
  have word : largestWord ≤ 2 ^ 64 := Nat.sub_le _ _
  calc largestWord * unit
      ≤ 2 ^ 64 * unit := Nat.mul_le_mul_right unit word
    _ ≤ limit := Nat.le_of_lt (two_pow_mul_unit_lt (by decide))
    _ ≤ limit + (unit - 1) := Nat.le_add_right _ _

/-- The whole number that a value is cut to; what is negative gives zero. -/
private theorem ceilWord_eq {x : Int} (known : a.value = some x) :
    a.ceilWord = min ((x.toNat + (unit - 1)) / unit) largestWord := by
  have nothing : (0 + (unit - 1)) / unit = 0 := by
    rw [Nat.zero_add]
    exact Nat.div_eq_of_lt (Nat.sub_lt Decimal.unit_pos Nat.one_pos)
  cases a with
  | nan => cases known
  | infinity s =>
    cases s with
    | true =>
      obtain rfl : -(limit : Int) = x := Option.some.inj known
      rw [Int.toNat_neg_natCast, nothing, Nat.zero_min]
      simp only [ceilWord, if_true]
    | false =>
      obtain rfl : (limit : Int) = x := Option.some.inj known
      rw [Int.toNat_natCast, Nat.min_eq_right largestWord_le]
      simp only [ceilWord, Bool.false_eq_true, if_false]
  | finite s m double =>
    cases s with
    | true =>
      obtain rfl : -(m : Int) = x := Option.some.inj known
      rw [Int.toNat_neg_natCast, nothing, Nat.zero_min]
      simp only [ceilWord, if_true]
    | false =>
      obtain rfl : (m : Int) = x := Option.some.inj known
      simp only [ceilWord, Bool.false_eq_true, if_false, Int.toNat_natCast]

/-- Going up to a whole number keeps the order. -/
theorem ceilWord_le_of_le (le : a.le b = true) : a.ceilWord ≤ b.ceilWord := by
  obtain ⟨x, y, left, right, order⟩ := le_iff.mp le
  have naturals : x.toNat ≤ y.toNat := Int.toNat_le_toNat order
  rw [ceilWord_eq left, ceilWord_eq right]
  have quotients := Nat.div_le_div_right (c := unit) (Nat.add_le_add_right naturals (unit - 1))
  omega

end Telemetry.Binary64
