import Telemetry.Binary64.Basic
/-!
The shortest decimal of a double: of all decimals that round to it, those with the fewest digits,
and of these the nearest. The search walks the decimal grids from coarse to fine and tests, in
exact arithmetic, the two points of the grid on either side of the number.
-/
namespace Telemetry

/-- The decimal number `digits * 10 ^ exponent`. -/
structure Decimal where
  digits : Nat
  exponent : Int
deriving DecidableEq, Repr

namespace Decimal

/-- How many decimal digits a natural has; zero has none. -/
def length (n : Nat) : Nat :=
  if n = 0 then 0 else length (n / 10) + 1
termination_by n
decreasing_by omega

/-- The same number without zeros at the end of its digits. -/
def stripZeros (digits : Nat) (exponent : Int) : Decimal :=
  if digits ≠ 0 ∧ digits % 10 = 0 then stripZeros (digits / 10) (exponent + 1)
  else ⟨digits, exponent⟩
termination_by digits
decreasing_by omega

/-- The exponent of the first digit of a positive number of quanta in decimal notation. -/
def leadingExponent (quanta : Nat) : Int :=
  if Binary64.unit ≤ quanta then (length (quanta / Binary64.unit) : Int) - 1
  else -(length ((Binary64.unit - 1) / quanta) : Int)

/-- Which point of a grid is taken when a number lies halfway between two of them. -/
inductive Tie where
  | upward
  | toEven
deriving DecidableEq, Repr

/-- The numbers that round to a given positive number of quanta, in quarters of a quantum: from
`low` to `high`, the ends belonging to them exactly if `closed`. -/
structure RoundingInterval where
  low : Nat
  value : Nat
  high : Nat
  closed : Bool
deriving Repr

/-- Halfway to either neighbour; the lower neighbour of a power of two is nearer by half. -/
def roundingInterval (quanta : Nat) : RoundingInterval :=
  let step := Binary64.spacing quanta
  let below := if 1 < step ∧ quanta = 2 ^ quanta.log2 then step else 2 * step
  ⟨4 * quanta - below, 4 * quanta, 4 * quanta + 2 * step, quanta / step % 2 = 0⟩

/-- The point of the grid `10 ^ exponent` that stands for the number, if one of the two points
beside the number lies in its interval. -/
def onGrid? (tie : Tie) (interval : RoundingInterval) (exponent : Int) : Option Nat :=
  let scale := 10 ^ (-exponent).toNat
  let cell := 4 * Binary64.unit * 10 ^ exponent.toNat
  let value := interval.value * scale
  let inside (point : Nat) : Bool :=
    if interval.closed then interval.low * scale ≤ point * cell ∧ point * cell ≤ interval.high * scale
    else interval.low * scale < point * cell ∧ point * cell < interval.high * scale
  let below := value / cell
  let twice := 2 * (value % cell)
  match inside below, inside (below + 1) with
  | false, false => none
  | true, false => some below
  | false, true => some (below + 1)
  | true, true =>
    if twice < cell then some below
    else if cell < twice then some (below + 1)
    else match tie with
      | .upward => some (below + 1)
      | .toEven => some (below + below % 2)

/-- Seventeen digits tell any two doubles apart. -/
def mostDigits : Nat := 17

/-- The shortest decimal of a positive number of quanta. -/
def shortest (tie : Tie) (quanta : Nat) : Decimal :=
  let interval := roundingInterval quanta
  let first := leadingExponent quanta
  let found := (List.range mostDigits).findSome? fun (n : Nat) =>
    (onGrid? tie interval (first - n)).map fun digits => stripZeros digits (first - n)
  found.getD (stripZeros (4 * quanta) 0)

end Decimal
end Telemetry
