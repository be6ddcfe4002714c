import Telemetry.Pattern.Basic
import Telemetry.Text.Blank
import Telemetry.Text.CaseVariants
/-!
The modes in which patterns are read, and what can be wrong with the text of a pattern.
-/
namespace Telemetry.Pattern

/-- Why a text is no pattern. -/
inductive Fault where
  | unclosedGroup
  | unopenedGroup
  | unclosedClass
  | nothingToRepeat
  | badCount
  | badRange
  | badEscape
  | badFlag
  | badGroupName
  | noLookAround
  | noBackReference
  | unknownProperty
  /-- Without the full character set something could match a part of a character. -/
  | partialCharacter
  | tooDeep
  /-- Laid out with all its repetitions it takes too much room. -/
  | tooLarge
deriving DecidableEq, Repr

/-- The modes of a pattern. -/
structure Flags where
  caseless : Bool := false
  multiline : Bool := false
  /-- A dot also matches the ends of lines. -/
  dotAll : Bool := false
  /-- Fewer repetitions are preferred to more, unless it is asked for the contrary. -/
  frugal : Bool := false
  crlf : Bool := false
  /-- White space and comments do not count. -/
  verbose : Bool := false
  /-- Classes hold characters beyond ASCII. -/
  unicode : Bool := true

/-- The text after white space and comments. -/
def skipComments (inComment : Bool) : List Char → List Char
  | [] => []
  | c :: rest =>
    if inComment then skipComments (c ≠ '\n') rest
    else if Text.isBlank c then skipComments false rest
    else if c = '#' then skipComments true rest
    else c :: rest

namespace Flags

/-- In verbose mode, the text after white space and comments. -/
def skip (flags : Flags) (text : List Char) : List Char :=
  if flags.verbose then skipComments false text else text

/-- A set as it is in the mode: with both cases if case does not count. -/
def cased (flags : Flags) (set : Text.CodePoints) : Text.CodePoints :=
  if !flags.caseless then set
  else if flags.unicode then set.caseless else set.asciiCaseless

/-- A set or, if it is negated, all others. Without the full character set the others would have
parts of characters among them. -/
def negated (flags : Flags) (negated : Bool) (set : Text.CodePoints) :
    Except Fault Text.CodePoints :=
  if !negated then .ok set
  else if flags.unicode then .ok set.complement
  else .error .partialCharacter

/-- What words are made of in the mode. -/
def words (flags : Flags) : Words := if flags.unicode then .all else .ascii

/-- A flag by its letter, set or cleared. -/
def set? (flags : Flags) (letter : Char) (value : Bool) : Option Flags :=
  match letter with
  | 'i' => some { flags with caseless := value }
  | 'm' => some { flags with multiline := value }
  | 's' => some { flags with dotAll := value }
  | 'U' => some { flags with frugal := value }
  | 'u' => some { flags with unicode := value }
  | 'R' => some { flags with crlf := value }
  | 'x' => some { flags with verbose := value }
  | _ => none

/-- Flags up to a closing bracket or a colon, which is left; those behind a hyphen are cleared. No
letter comes twice, a hyphen comes once at most, and something comes behind it. `seen` are the
letters so far. -/
def read (flags : Flags) (clearing : Bool) (seen : List Char) :
    List Char → Except Fault (Flags × List Char)
  | [] => .error .badFlag
  | ')' :: rest =>
    if clearing && seen.head? = some '-' then .error .badFlag else .ok (flags, ')' :: rest)
  | ':' :: rest =>
    if clearing && seen.head? = some '-' then .error .badFlag else .ok (flags, ':' :: rest)
  | c :: rest =>
    if seen.contains c then .error .badFlag
    else if c = '-' then read flags true (c :: seen) rest
    else match flags.set? c !clearing with
      | some flags => read flags clearing (c :: seen) rest
      | none => .error .badFlag

end Flags
end Telemetry.Pattern
