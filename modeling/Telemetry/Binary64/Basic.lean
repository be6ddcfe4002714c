import Telemetry.Naturals
/-!
Double-precision numbers as exact values. A finite number is a sign and a whole number of
*quanta*, the quantum being `2^-1074`, the smallest positive double; so addition, comparison and
rounding are arithmetic on naturals, and one function, `Binary64.round`, does all the rounding.
Not every natural counts the quanta of a double: `Binary64.IsDouble` says which ones do, and a
finite number carries it.
-/
namespace Telemetry
namespace Binary64

/-- How many quanta make one. -/
def unit : Nat := 2 ^ 1074

/-- Finite numbers lie below this many quanta, which is `2^1024`. -/
def limit : Nat := 2 ^ 2098

/-- The quotient of two naturals, a half going to the even neighbour. -/
def divideToEven (num den : Nat) : Nat :=
  let quotient := num / den
  let remainder := num % den
  if 2 * remainder < den then quotient
  else if den < 2 * remainder then quotient + 1
  else quotient + quotient % 2

/-- The distance between neighbouring doubles from `quanta` upwards, in quanta: fifty-three
binary digits are kept, and never less than a whole quantum. -/
def spacing (quanta : Nat) : Nat :=
  if quanta < 2 ^ 53 then 1 else 2 ^ (quanta.log2 - 52)

/-- So many quanta are a finite double. -/
structure IsDouble (quanta : Nat) : Prop where
  onGrid : spacing quanta ∣ quanta
  below : quanta < limit

/-- Below `2^53` quanta the logarithm is at most fifty-two, and both branches are one power. -/
theorem spacing_eq (quanta : Nat) : spacing quanta = 2 ^ (quanta.log2 - 52) := by
  unfold spacing
  split
  · rename_i small
    by_cases zero : quanta = 0
    · subst zero
      simp
    · have bound := (Nat.log2_lt zero).mpr small
      rw [show quanta.log2 - 52 = 0 by omega, Nat.pow_zero]
  · rfl

theorem spacing_pos (quanta : Nat) : 0 < spacing quanta := by
  rw [spacing_eq]
  exact Nat.two_pow_pos _

/-- Whatever is written with fifty-three binary digits and zeros behind them lies on the grid. -/
theorem spacing_dvd_scaled {digits : Nat} (bound : digits ≤ 2 ^ 53) (exponent : Nat) :
    spacing (digits * 2 ^ exponent) ∣ digits * 2 ^ exponent := by
  by_cases zero : digits * 2 ^ exponent = 0
  · rw [zero]
    exact Nat.dvd_zero _
  rw [spacing_eq]
  by_cases top : digits = 2 ^ 53
  · rw [top, ← Nat.pow_add, Nat.log2_two_pow]
    exact Nat.pow_dvd_pow 2 (by omega)
  · have below : digits * 2 ^ exponent < 2 ^ (53 + exponent) := by
      rw [Nat.pow_add]
      exact Nat.mul_lt_mul_of_pos_right (by omega) (Nat.two_pow_pos _)
    have log := (Nat.log2_lt zero).mpr below
    exact Nat.dvd_trans (Nat.pow_dvd_pow 2 (by omega)) (Nat.dvd_mul_left _ _)

theorem divideToEven_le (num den : Nat) : divideToEven num den ≤ num / den + 1 := by
  unfold divideToEven
  dsimp only
  split
  · omega
  · split
    · omega
    · omega

/-- The digits that are kept of a quotient are at most `2^53`. -/
theorem keptDigits_le (num den : Nat) :
    divideToEven num (den * spacing (num / den)) ≤ 2 ^ 53 := by
  have quotient : num / (den * spacing (num / den)) < 2 ^ 53 := by
    rw [← Nat.div_div_eq_div_mul, Nat.div_lt_iff_lt_mul (spacing_pos _), spacing_eq, ← Nat.pow_add]
    exact Nat.lt_of_lt_of_le Nat.lt_log2_self (Nat.pow_le_pow_right (by omega) (by omega))
  have := divideToEven_le num (den * spacing (num / den))
  omega

theorem spacing_dvd_rounded (num den : Nat) :
    spacing (divideToEven num (den * spacing (num / den)) * spacing (num / den)) ∣
      divideToEven num (den * spacing (num / den)) * spacing (num / den) := by
  have grid := spacing_dvd_scaled (keptDigits_le num den) ((num / den).log2 - 52)
  rwa [← spacing_eq] at grid

theorem isDouble_zero : IsDouble 0 := by
  refine ⟨Nat.dvd_zero _, ?_⟩
  rw [limit]
  exact Nat.two_pow_pos 2098

theorem isDouble_two_pow (exponent : Nat) (bound : exponent < 2098) : IsDouble (2 ^ exponent) := by
  have grid := spacing_dvd_scaled (show 1 ≤ 2 ^ 53 by decide) exponent
  rw [Nat.one_mul] at grid
  refine ⟨grid, ?_⟩
  rw [limit]
  exact Nat.pow_lt_pow_of_lt (a := 2) (n := exponent) (m := 2098) (by decide) bound

theorem isDouble_unit : IsDouble unit := by
  rw [unit]
  exact isDouble_two_pow 1074 (by decide)

end Binary64

/-- A double-precision number. The sign of a zero is kept; all NaNs are one. -/
inductive Binary64 where
  | nan
  | infinity (negative : Bool)
  | finite (negative : Bool) (quanta : Nat) (double : Binary64.IsDouble quanta)
deriving DecidableEq, Repr

namespace Binary64

/-- The double nearest to `num / den` quanta; of two that are equally near, the even one. -/
def round (negative : Bool) (num den : Nat) : Binary64 :=
  let step := spacing (num / den)
  let quanta := divideToEven num (den * step) * step
  if below : quanta < limit then finite negative quanta ⟨spacing_dvd_rounded num den, below⟩
  else infinity negative

/-- Zero with a sign. -/
def signedZero (negative : Bool) : Binary64 := finite negative 0 isDouble_zero

/-- Zero, with a positive sign. -/
def zero : Binary64 := signedZero false

/-- One. -/
def one : Binary64 := finite false unit isDouble_unit

instance : Inhabited Binary64 := ⟨zero⟩

/-- The double nearest to a natural. -/
def ofNat (n : Nat) : Binary64 := round false (n * unit) 1

/-- The value in quanta, infinities standing at the limit on either side. A NaN has none. -/
def value : Binary64 → Option Int
  | nan => none
  | infinity negative => some (if negative then -(limit : Int) else limit)
  | finite negative quanta _ => some (if negative then -(quanta : Int) else quanta)

/-- Whether the number is neither a NaN nor an infinity. -/
def isFinite : Binary64 → Bool
  | finite _ _ _ => true
  | _ => false

/-- Numeric order. It never holds of a NaN, and both zeros are one value. -/
def le (a b : Binary64) : Bool :=
  match a.value, b.value with
  | some x, some y => x ≤ y
  | _, _ => false

/-- Numeric equality: a NaN equals nothing, and the zeros equal each other. -/
def sameValue (a b : Binary64) : Bool :=
  match a.value, b.value with
  | some x, some y => x = y
  | _, _ => false

/-- The place of a number in the total order: by value, the negative zero below the positive
one, and NaN above everything. -/
def place : Binary64 → Int
  | nan => 2 * limit + 2
  | infinity negative => if negative then -(2 * limit : Int) else 2 * limit
  | finite negative quanta _ => if negative then -(2 * quanta : Int) else 2 * quanta + 1

/-- The total order. -/
def placedBefore (a b : Binary64) : Bool := a.place ≤ b.place

/-- Addition. Two negative zeros make a negative zero, every other vanishing sum a positive one. -/
def add : Binary64 → Binary64 → Binary64
  | nan, _ | _, nan => nan
  | infinity s, infinity t => if s = t then infinity s else nan
  | infinity s, finite _ _ _ => infinity s
  | finite _ _ _, infinity t => infinity t
  | finite s m _, finite t n _ =>
    if s = t then round s (m + n) 1
    else if m = n then zero
    else if n < m then round s (m - n) 1
    else round t (n - m) 1

/-- Multiplication. -/
def mul : Binary64 → Binary64 → Binary64
  | nan, _ | _, nan => nan
  | infinity s, infinity t => infinity (s != t)
  | infinity s, finite t n _ | finite t n _, infinity s => if n = 0 then nan else infinity (s != t)
  | finite s m _, finite t n _ => round (s != t) (m * n) unit

/-- Division. -/
def div : Binary64 → Binary64 → Binary64
  | nan, _ | _, nan => nan
  | infinity _, infinity _ => nan
  | infinity s, finite t _ _ => infinity (s != t)
  | finite s _ _, infinity t => signedZero (s != t)
  | finite s m _, finite t n _ =>
    if n = 0 then (if m = 0 then nan else infinity (s != t)) else round (s != t) (m * unit) n

instance : Add Binary64 := ⟨add⟩
instance : Mul Binary64 := ⟨mul⟩
instance : Div Binary64 := ⟨div⟩

/-- The largest word of 64 bits. -/
def largestWord : Nat := 2 ^ 64 - 1

/-- The least whole number that is not below the given one, cut to a 64-bit word: negative
numbers and NaN give zero. -/
def ceilWord : Binary64 → Nat
  | nan => 0
  | infinity negative => if negative then 0 else largestWord
  | finite negative quanta _ => if negative then 0 else min ((quanta + (unit - 1)) / unit) largestWord

/-- The nearest whole number, a half going away from zero, cut to a 64-bit word: negative
numbers and NaN give zero. -/
def roundWord : Binary64 → Nat
  | nan => 0
  | infinity negative => if negative then 0 else largestWord
  | finite negative quanta _ => if negative then 0 else min ((2 * quanta + unit) / (2 * unit)) largestWord

end Binary64
end Telemetry
