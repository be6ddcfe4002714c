import Telemetry.Binary64.Basic
/-!
Reading doubles. A number is an optional sign, then `inf`, `infinity` or `nan` in any case, or
digits with an optional point and an optional exponent; it is rounded once, to the nearest double.
-/
namespace Telemetry.Decimal

/-- The natural that a string of digits denotes, most significant first. -/
def digitsValue (digits : List Char) : Nat :=
  digits.foldl (fun n c => 10 * n + (c.toNat - '0'.toNat)) 0

/-- A sign, if there is one, and what follows it. -/
def readSign : List Char → Bool × List Char
  | '-' :: rest => (true, rest)
  | '+' :: rest => (false, rest)
  | rest => (false, rest)

/-- An optional exponent, which has to end the text. -/
def readExponent : List Char → Option Int
  | [] => some 0
  | e :: rest =>
    if e = 'e' ∨ e = 'E' then
      let (negative, digits) := readSign rest
      if digits.isEmpty ∨ ¬ digits.all Char.isDigit then none
      else some (if negative then -(digitsValue digits : Int) else digitsValue digits)
    else none

/-- Past this exponent of the first digit everything is infinite, and below its negative
everything is zero. -/
def exponentBound : Int := 400

/-- The double nearest to `digits * 10 ^ exponent`, where `digits` has `count` digits. -/
def nearest (negative : Bool) (digits count : Nat) (exponent : Int) : Binary64 :=
  if digits = 0 then .signedZero negative
  else if exponentBound < exponent + count then .infinity negative
  else if exponent + count < -exponentBound then .signedZero negative
  else .round negative (digits * 10 ^ exponent.toNat * Binary64.unit) (10 ^ (-exponent).toNat)

/-- Digits, a point and an exponent; a point needs a digit on one side at least. -/
def readUnsigned (negative : Bool) (text : List Char) : Option Binary64 :=
  let whole := text.takeWhile Char.isDigit
  let (fraction, rest) := match text.dropWhile Char.isDigit with
    | '.' :: rest => (rest.takeWhile Char.isDigit, rest.dropWhile Char.isDigit)
    | rest => ([], rest)
  let digits := (whole ++ fraction).dropWhile (· = '0')
  if whole.isEmpty ∧ fraction.isEmpty then none
  else (readExponent rest).map fun exponent =>
    nearest negative (digitsValue digits) digits.length (exponent - fraction.length)

/-- The double that a text denotes. -/
def read? (text : String) : Option Binary64 :=
  let (negative, rest) := readSign text.toList
  let word := String.ofList (rest.map Char.toLower)
  if word = "inf" ∨ word = "infinity" then some (.infinity negative)
  else if word = "nan" then some .nan
  else readUnsigned negative rest

end Telemetry.Decimal
