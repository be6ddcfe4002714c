import Telemetry.Duration
import Telemetry.Tags
import Telemetry.Text.Blank
import Telemetry.Text.LowerCase
import Telemetry.Text.Split
/-!
Reading the values of settings: durations, flags, numbers and tags. White space around a value
never counts, and the case of units and flags does not either.
-/
namespace Telemetry

/-- A text of decimal digits, perhaps after a plus sign, that denotes less than `bound`. -/
def readNumber? (bound : Nat) (text : List Char) : Option Nat :=
  let digits := match text with
    | '+' :: digits => digits
    | digits => digits
  if digits.isEmpty || !digits.all Char.isDigit then none
  else
    let n := digits.foldl (fun n c => 10 * n + (c.toNat - '0'.toNat)) 0
    if n < bound then some n else none

/-- A text without an ending, if it has that ending. -/
def stripEnd? (ending text : List Char) : Option (List Char) :=
  if ending.isSuffixOf text then some (text.take (text.length - ending.length)) else none

/-- The units of durations and their milliseconds, in the order in which they are tried. -/
def durationUnits : List (String × Nat) :=
  [("ms", 1), ("s", 1000), ("m", 60 * 1000), ("h", 60 * 60 * 1000)]

/-- Splits a unit off the end of a text; without one the number counts seconds. -/
def splitUnit (text : List Char) : List Char × Nat :=
  (durationUnits.findSome? fun (unit, millis) =>
    (stripEnd? unit.toList text).map (·, millis)).getD (text, 1000)

/-- A number with a unit, such as `30s` (`parse_duration`). More milliseconds than a word holds are
cut to that. -/
def Duration.read? (text : String) : Option Duration :=
  let (number, millis) := splitUnit (Text.lowerCase (Text.trim text.toList))
  (readNumber? (2 ^ 64) (Text.trim number)).map fun n =>
    .ofMilliseconds (min (n * millis) Binary64.largestWord)

/-- The words for true and false (`parse_bool`). -/
def readFlag? (text : String) : Option Bool :=
  let word := String.ofList (Text.lowerCase (Text.trim text.toList))
  if ["true", "1", "yes", "on"].contains word then some true
  else if ["false", "0", "no", "off"].contains word then some false
  else none

/-- One `key=value`; what has no `=` or nothing before it is no tag. -/
def readTag? (pair : List Char) : Option (String × String) :=
  match Text.splitOnce? '=' pair with
  | none => none
  | some (key, value) =>
    if (Text.trim key).isEmpty then none
    else some (.ofList (Text.trim key), .ofList (Text.trim value))

/-- Tags as `key=value` with commas between (`parse_tags`); other pieces are passed over. -/
def Tags.read (text : String) : Tags :=
  .ofList ((Text.splitOn ',' text.toList).filterMap readTag?)

end Telemetry
