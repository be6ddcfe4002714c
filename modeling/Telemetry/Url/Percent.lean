import Telemetry.Text.Utf8
/-!
Percent-encoding. Characters beyond ASCII and controls are always encoded, byte by byte; which other
characters are depends on the part of the address.
-/
namespace Telemetry.Url

/-- A digit of base sixteen, capital. -/
def hexDigit (n : Nat) : Char := (Nat.digitChar n).toUpper

/-- A byte as a percent sign and two digits. -/
def encodeByte (byte : UInt8) : List Char :=
  ['%', hexDigit (byte.toNat / 16), hexDigit (byte.toNat % 16)]

/-- A character, encoded if it is a control, beyond ASCII, or in the set. -/
def encodeChar (set : List Char) (c : Char) : List Char :=
  if c.toNat < 0x20 || 0x7f ≤ c.toNat || set.contains c then
    (String.singleton c).toUTF8.toList.flatMap encodeByte
  else [c]

/-- A text whose characters are encoded if they have to be. -/
def encode (set : List Char) (text : List Char) : List Char := text.flatMap (encodeChar set)

/-- What is encoded in a fragment. -/
def fragmentSet : List Char := [' ', '"', '<', '>', '`']

/-- What is encoded in a path. -/
def pathSet : List Char := fragmentSet ++ ['#', '?', '\x7b', '\x7d']

/-- What is encoded in a user name or a password. -/
def userSet : List Char := pathSet ++ ['/', ':', ';', '=', '@', '[', '\\', ']', '^', '|']

/-- What is encoded in a query. -/
def querySet : List Char := [' ', '"', '#', '<', '>']

/-- What is encoded in the query of an address whose scheme is special. -/
def specialQuerySet : List Char := querySet ++ ['\'']

/-- The digit of base sixteen that a character denotes. -/
def hexValue? (c : Char) : Option Nat :=
  if c.isDigit then some (c.toNat - '0'.toNat)
  else if 'a' ≤ c ∧ c ≤ 'f' then some (c.toNat - 'a'.toNat + 10)
  else if 'A' ≤ c ∧ c ≤ 'F' then some (c.toNat - 'A'.toNat + 10)
  else none

/-- The bytes of a text, in which a percent sign with two digits stands for one byte. -/
def decodeBytes : List Char → List UInt8
  | [] => []
  | '%' :: first :: second :: rest =>
    match hexValue? first, hexValue? second with
    | some high, some low => .ofNat (16 * high + low) :: decodeBytes rest
    | _, _ => 0x25 :: decodeBytes (first :: second :: rest)
  | c :: rest => (String.singleton c).toUTF8.toList ++ decodeBytes rest
termination_by text => text.length

/-- A text with its percent signs resolved. -/
def decode (text : List Char) : List Char := Text.decodeLossy (decodeBytes text)

end Telemetry.Url
