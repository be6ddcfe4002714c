import Telemetry.Naturals
/-!
A binary format in units of four bytes: words with the most significant byte first, and texts as
their length in bytes, their bytes, and zeros up to the next unit.
-/
namespace Telemetry.Xdr

/-- A word of four bytes (`Xdr::uint`). -/
def word (n : UInt32) : List UInt8 :=
  [(n >>> 24).toUInt8, (n >>> 16).toUInt8, (n >>> 8).toUInt8, n.toUInt8]

/-- How many zeros bring a length to a multiple of four. -/
def padding (length : Nat) : Nat := (4 - length % 4) % 4

/-- The largest length that can be written. -/
def largestLength : Nat := 2 ^ 32 - 1

/-- A text (`Xdr::string`). -/
def string (text : String) : List UInt8 :=
  let bytes := text.toUTF8.toList
  word (.ofNat (min bytes.length largestLength)) ++ bytes ++
    List.replicate (padding bytes.length) 0

end Telemetry.Xdr
