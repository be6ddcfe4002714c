import Telemetry.Decimal.Layout
/-!
Documents and their compact text. Only quotes, backslashes and the controls below the space are
escaped; numbers that are not finite have no text of their own and become `null`. The text is the
one that `serde_json` writes.
-/
namespace Telemetry

/-- A document. -/
inductive Json where
  | null
  | integer (n : Int)
  | number (x : Binary64)
  | string (s : String)
  | array (items : List Json)
  | object (fields : List (String × Json))

namespace Json

/-- One character inside a string. -/
def escapeChar (c : Char) : List Char :=
  match c with
  | '"' => ['\\', '"']
  | '\\' => ['\\', '\\']
  | '\x08' => ['\\', 'b']
  | '\t' => ['\\', 't']
  | '\n' => ['\\', 'n']
  | '\x0c' => ['\\', 'f']
  | '\r' => ['\\', 'r']
  | c =>
    if c.toNat < 0x20 then
      ['\\', 'u', '0', '0', Nat.digitChar (c.toNat / 16), Nat.digitChar (c.toNat % 16)]
    else [c]

/-- A string in quotes. -/
def writeString (s : String) : List Char := '"' :: (s.toList.flatMap escapeChar ++ ['"'])

/-- A number; what is not finite is `null`. -/
def writeNumber (x : Binary64) : List Char := (Decimal.document.write x).toList

mutual
/-- The compact text of a document. -/
def write : Json → List Char
  | null => "null".toList
  | integer n => (toString n).toList
  | number x => writeNumber x
  | string s => writeString s
  | array items => '[' :: (writeItems items ++ [']'])
  | object fields => '\x7b' :: (writeFields fields ++ ['\x7d'])

/-- The items of an array with commas between. -/
def writeItems : List Json → List Char
  | [] => []
  | [item] => write item
  | item :: next :: rest => write item ++ ',' :: writeItems (next :: rest)

/-- The fields of an object with commas between. -/
def writeFields : List (String × Json) → List Char
  | [] => []
  | [(name, value)] => writeString name ++ ':' :: write value
  | (name, value) :: next :: rest =>
    writeString name ++ ':' :: (write value ++ ',' :: writeFields (next :: rest))
end

/-- The compact text of a document as a string (`serde_json::to_string`). -/
def render (document : Json) : String := String.ofList document.write

end Json
end Telemetry
