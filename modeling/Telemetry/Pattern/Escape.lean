import Telemetry.Pattern.Flags
import Telemetry.Pattern.Matching
import Telemetry.Pattern.Property
/-!
What a backslash and the characters behind it mean. In verbose mode white space and comments may
stand between the characters of an escape, but not behind the backslash itself.
-/
namespace Telemetry.Pattern

open Text (CodePoints)

/-- What an escape stands for. -/
inductive Escape where
  | literal (c : Char)
  | chars (set : CodePoints)
  | look (look : Look)

/-- The digit of base sixteen that a character denotes. -/
def hexDigit? (c : Char) : Option Nat :=
  if c.isDigit then some (c.toNat - '0'.toNat)
  else if 'a' ≤ c ∧ c ≤ 'f' then some (c.toNat - 'a'.toNat + 10)
  else if 'A' ≤ c ∧ c ≤ 'F' then some (c.toNat - 'A'.toNat + 10)
  else none

/-- A number of digits of base sixteen. -/
def readHexDigits (flags : Flags) : Nat → Nat → List Char → Except Fault (Nat × List Char)
  | 0, code, text => .ok (code, text)
  | _ + 1, _, [] => .error .badEscape
  | n + 1, code, c :: rest =>
    match hexDigit? c with
    | some digit => readHexDigits flags n (16 * code + digit) (flags.skip rest)
    | none => .error .badEscape

/-- Digits of base sixteen up to a closing brace; `code?` is what they denote so far. The bound is at
least the length of the text. -/
def readHexBraces (flags : Flags) : Nat → Option Nat → List Char → Except Fault (Nat × List Char)
  | bound + 1, code?, c :: rest =>
    if c = '\x7d' then
      match code? with
      | some code => .ok (code, flags.skip rest)
      | none => .error .badEscape
    else match hexDigit? c with
      | some digit =>
        readHexBraces flags bound (some (16 * code?.getD 0 + digit)) (flags.skip rest)
      | none => .error .badEscape
  | _, _, _ => .error .badEscape

/-- A character by its code point. -/
def charOfCode (code : Nat) : Except Fault Char :=
  if h : code.isValidChar then .ok (Char.ofNatAux code h) else .error .badEscape

/-- A character by its code point in base sixteen, of some digits or in braces. Without the full
character set two digits are a byte, which has to be of ASCII. -/
def readHex (flags : Flags) (digits : Nat) (text : List Char) :
    Except Fault (Escape × List Char) := do
  match flags.skip text with
  | '\x7b' :: rest =>
    let (code, rest) ← readHexBraces flags (rest.length + 1) none (flags.skip rest)
    return (.literal (← charOfCode code), rest)
  | text =>
    let (code, rest) ← readHexDigits flags digits 0 text
    if digits = 2 ∧ 0x80 ≤ code ∧ !flags.unicode then throw .partialCharacter
    else return (.literal (← charOfCode code), rest)

/-- The characters up to a closing brace. The bound is at least the length of the text. -/
def readBraced (flags : Flags) : Nat → List Char → Except Fault (List Char × List Char)
  | bound + 1, c :: rest =>
    if c = '\x7d' then .ok ([], rest)
    else do
      let (name, rest) ← readBraced flags bound (flags.skip rest)
      return (c :: name, rest)
  | _, _ => .error .badEscape

/-- A named property: one letter, or a name in braces. -/
def readProperty (flags : Flags) (negated : Bool) (text : List Char) :
    Except Fault (Escape × List Char) := do
  let (name, rest) ← match flags.skip text with
    | [] => throw .badEscape
    | '\\' :: _ => throw .badEscape
    | '\x7b' :: rest => readBraced flags (rest.length + 1) (flags.skip rest)
    | c :: rest => .ok ([c], flags.skip rest)
  match property? name with
  | some (set, denied) =>
    if flags.unicode then
      return (.chars (← flags.negated (negated != denied) (flags.cased set)), rest)
    else throw .partialCharacter
  | none => throw .unknownProperty

/-- The kinds of word boundaries that have a name. -/
def namedBoundary? (words : Words) (name : String) : Option Look :=
  match name with
  | "start" => some (.wordStart words)
  | "end" => some (.wordEnd words)
  | "start-half" => some (.wordStartHalf words)
  | "end-half" => some (.wordEndHalf words)
  | _ => none

/-- Whether a character may be in the name of a word boundary. -/
def isBoundaryChar (c : Char) : Bool := c.isAlpha || c = '-'

/-- The name of a word boundary. The bound is at least the length of the text. -/
def readBoundaryName (flags : Flags) : Nat → List Char → List Char × List Char
  | bound + 1, c :: rest =>
    if isBoundaryChar c then
      let (name, rest) := readBoundaryName flags bound (flags.skip rest)
      (c :: name, rest)
    else ([], c :: rest)
  | _, text => ([], text)

/-- A word boundary; its kind may follow in braces. What begins like a number in braces counts
repetitions, and is left. -/
def readBoundary (flags : Flags) (text : List Char) : Except Fault (Escape × List Char) :=
  let plain : Escape := .look (.wordBoundary flags.words)
  match text with
  | '\x7b' :: rest =>
    match flags.skip rest with
    | [] => .error .badEscape
    | first :: after =>
      if !isBoundaryChar first then .ok (plain, text)
      else
        let (name, rest) := readBoundaryName flags (after.length + 1) (first :: after)
        match rest, namedBoundary? flags.words (String.ofList name) with
        | '\x7d' :: rest, some boundary => .ok (.look boundary, rest)
        | _, _ => .error .badEscape
  | _ => .ok (plain, text)

/-- A class that one letter stands for: its characters with the full character set, or those of
ASCII. -/
def shorthand (flags : Flags) (full ascii : CodePoints) (negated : Bool) (rest : List Char) :
    Except Fault (Escape × List Char) :=
  (flags.negated negated (if flags.unicode then full else ascii)).map (.chars ·, rest)

/-- The ten digits of ASCII. -/
def asciiDigits : CodePoints := [(0x30, 0x39)]

/-- The white space of ASCII. -/
def asciiBlanks : CodePoints := [(0x9, 0xd), (0x20, 0x20)]

/-- What stands behind a backslash. Letters that mean nothing are reserved, and digits do not refer
to groups. -/
def readEscape (flags : Flags) (text : List Char) : Except Fault (Escape × List Char) :=
  match text with
  | [] => .error .badEscape
  | c :: rest =>
    match c with
    | 'x' => readHex flags 2 rest
    | 'u' => readHex flags 4 rest
    | 'U' => readHex flags 8 rest
    | 'p' => readProperty flags false rest
    | 'P' => readProperty flags true rest
    | 'd' => shorthand flags Text.decimalDigits asciiDigits false rest
    | 'D' => shorthand flags Text.decimalDigits asciiDigits true rest
    | 's' => shorthand flags Text.blanks asciiBlanks false rest
    | 'S' => shorthand flags Text.blanks asciiBlanks true rest
    | 'w' => shorthand flags wordCharacters asciiWordCharacters false rest
    | 'W' => shorthand flags wordCharacters asciiWordCharacters true rest
    | 'a' => .ok (.literal '\x07', rest)
    | 'f' => .ok (.literal '\x0c', rest)
    | 't' => .ok (.literal '\t', rest)
    | 'n' => .ok (.literal '\n', rest)
    | 'r' => .ok (.literal '\r', rest)
    | 'v' => .ok (.literal '\x0b', rest)
    | 'A' => .ok (.look .textStart, rest)
    | 'z' => .ok (.look .textEnd, rest)
    | 'b' => readBoundary flags rest
    | 'B' => .ok (.look (.noWordBoundary flags.words), rest)
    | '<' => .ok (.look (.wordStart flags.words), rest)
    | '>' => .ok (.look (.wordEnd flags.words), rest)
    | c =>
      if c.isDigit then .error .noBackReference
      else if c.isAlpha || 0x80 ≤ c.toNat then .error .badEscape
      else .ok (.literal c, rest)

end Telemetry.Pattern
