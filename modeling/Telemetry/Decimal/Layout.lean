import Telemetry.Decimal.Shortest
/-!
How numbers are written. A `Layout` records the decisions of one output format; `Layout.write`
lays the shortest decimal of a double out by them.
-/
namespace Telemetry.Decimal

/-- The decisions of a number format. -/
structure Layout where
  /-- Which of two equally near shortest decimals is written. -/
  tie : Tie
  /-- Numbers whose first digit has this exponent or a larger one are written with an exponent. -/
  scientificFrom : Option Int
  /-- Numbers whose first digit has a smaller exponent than this are written with an exponent. -/
  scientificBelow : Option Int
  /-- What follows the digits of a whole number in positional notation. -/
  wholeSuffix : String
  nanText : String
  positiveInfinity : String
  negativeInfinity : String

/-- The shortest decimal in full, whole numbers without a point. -/
def plain : Layout := ⟨.upward, none, none, "", "NaN", "inf", "-inf"⟩

/-- As `plain`, with signs on the infinities. -/
def signedInfinity : Layout := ⟨.upward, none, none, "", "NaN", "+Inf", "-Inf"⟩

/-- The numbers of a document format without infinities: at least one digit after the point, and
an exponent outside `[1e-5, 1e16)`. -/
def document : Layout := ⟨.toEven, some 16, some (-5), ".0", "null", "null", "null"⟩

/-- The decimal digits of a natural. -/
def digitText (n : Nat) : List Char := Nat.toDigits 10 n

/-- A decimal in positional notation. -/
def positional (layout : Layout) (d : Decimal) : List Char :=
  let digits := digitText d.digits
  if 0 ≤ d.exponent then digits ++ List.replicate d.exponent.toNat '0' ++ layout.wholeSuffix.toList
  else
    let places := (-d.exponent).toNat
    if places < digits.length then
      digits.take (digits.length - places) ++ '.' :: digits.drop (digits.length - places)
    else '0' :: '.' :: (List.replicate (places - digits.length) '0' ++ digits)

/-- A decimal with its first digit before the point, and an exponent that always has a sign. -/
def scientific (d : Decimal) (exponent : Int) : List Char :=
  let mantissa := match digitText d.digits with
    | first :: second :: rest => first :: '.' :: second :: rest
    | digits => digits
  mantissa ++ 'e' :: (if exponent < 0 then '-' else '+') :: digitText exponent.natAbs

/-- The digits of a positive number. -/
def magnitude (layout : Layout) (quanta : Nat) : List Char :=
  let d := shortest layout.tie quanta
  let exponent := (digitText d.digits).length - 1 + d.exponent
  if layout.scientificFrom.any (· ≤ exponent) || layout.scientificBelow.any (exponent < ·) then
    scientific d exponent
  else positional layout d

/-- The text of a double. -/
def Layout.write (layout : Layout) : Binary64 → String
  | .nan => layout.nanText
  | .infinity negative => if negative then layout.negativeInfinity else layout.positiveInfinity
  | .finite negative quanta _ =>
    let digits := if quanta = 0 then '0' :: layout.wholeSuffix.toList else magnitude layout quanta
    String.ofList (if negative then '-' :: digits else digits)

end Telemetry.Decimal
