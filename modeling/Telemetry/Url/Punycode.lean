import Telemetry.Naturals
/-!
Labels of domains in ASCII. Characters beyond ASCII are left out of a label and described behind it
by digits of base thirty-six: for each, in ascending order, how far it is from the one before.
-/
namespace Telemetry.Url.Punycode

/-- A digit: letters first, then the ten digits. -/
def digit (d : Nat) : Char := Char.ofNat (if d < 26 then 0x61 + d else 0x30 + d - 26)

/-- The digit that a character denotes. -/
def digitValue? (c : Char) : Option Nat :=
  if c.isLower then some (c.toNat - 0x61)
  else if c.isUpper then some (c.toNat - 0x41)
  else if c.isDigit then some (c.toNat - 0x30 + 26)
  else none

/-- The threshold of a digit at a position. -/
def threshold (position bias : Nat) : Nat := max 1 (min 26 (position - bias))

/-- Divides a distance down, counting the digits that are left out. -/
def scaleDown (delta count : Nat) : Nat :=
  if 455 < delta then scaleDown (delta / 35) (count + 36) else count + 36 * delta / (delta + 38)
termination_by delta
decreasing_by omega

/-- The bias after a distance was written. -/
def adapt (delta length : Nat) (first : Bool) : Nat :=
  let delta := if first then delta / 700 else delta / 2
  scaleDown (delta + delta / length) 0

/-- A distance as digits, the last of which is below its threshold. -/
def encodeDistance (bias position q : Nat) : List Char :=
  let t := threshold position bias
  if q < t then [digit q]
  else digit (t + (q - t) % (36 - t)) :: encodeDistance bias (position + 36) ((q - t) / (36 - t))
termination_by q
decreasing_by
  have positive : 1 ≤ threshold position bias := Nat.le_max_left _ _
  calc (q - threshold position bias) / (36 - threshold position bias)
      ≤ q - threshold position bias := Nat.div_le_self _ _
    _ < q := by omega

/-- The state of writing. -/
structure State where
  written : List Char
  delta : Nat
  bias : Nat
  handled : Nat

/-- Passes one character of the label while the code point `code` is written. -/
def passChar (basic code : Nat) (state : State) (c : Char) : State :=
  if c.toNat < code then { state with delta := state.delta + 1 }
  else if c.toNat = code then
    ⟨state.written ++ encodeDistance state.bias 36 state.delta, 0,
     adapt state.delta (state.handled + 1) (state.handled = basic), state.handled + 1⟩
  else state

/-- Writes the code points of a list, each of which is at least `next`. -/
def encodeCodes (label : List Char) (basic : Nat) : List Nat → Nat → State → State
  | [], _, state => state
  | code :: codes, next, state =>
    let state := { state with delta := state.delta + (code - next) * (state.handled + 1) }
    let state := label.foldl (passChar basic code) state
    encodeCodes label basic codes (code + 1) { state with delta := state.delta + 1 }

/-- A label in ASCII, without the mark in front. -/
def encode (label : List Char) : List Char :=
  let basic := label.filter (·.toNat < 0x80)
  let codes := ((label.filter (0x80 ≤ ·.toNat)).map (·.toNat)).mergeSort.eraseReps
  let front := if basic.isEmpty then [] else basic ++ ['-']
  (encodeCodes label basic.length codes 0x80 ⟨front, 0, 72, basic.length⟩).written

/-- Reads a distance off the front of some digits. The weight of a digit fits into four bytes. -/
def decodeDistance (bias : Nat) : Nat → Nat → Nat → List Char → Option (Nat × List Char)
  | _, _, _, [] => none
  | position, weight, distance, c :: rest =>
    match digitValue? c with
    | none => none
    | some d =>
      let distance := distance + d * weight
      let t := threshold position bias
      if d < t then some (distance, rest)
      else if 2 ^ 32 ≤ weight * (36 - t) then none
      else decodeDistance bias (position + 36) (weight * (36 - t)) distance rest

theorem length_lt_of_decodeDistance {bias position weight start distance : Nat}
    {text rest : List Char}
    (read : decodeDistance bias position weight start text = some (distance, rest)) :
    rest.length < text.length := by
  induction text generalizing position weight start with
  | nil => simp [decodeDistance] at read
  | cons c others ih =>
    simp only [decodeDistance] at read
    split at read
    · cases read
    · split at read
      · cases read
        simp
      · split at read
        · cases read
        · exact Nat.lt_succ_of_lt (ih read)

/-- Puts the described characters into a label. -/
def decodeInto (label : List Char) (code position bias : Nat) (first : Bool)
    (digits : List Char) : Option (List Char) :=
  if digits.isEmpty then some label
  else match _read : decodeDistance bias 36 1 0 digits with
    | none => none
    | some (distance, rest) =>
      let length := label.length + 1
      let place := position + distance
      let code := code + place / length
      let place := place % length
      if code.isValidChar then
        decodeInto (label.take place ++ Char.ofNat code :: label.drop place) code (place + 1)
          (adapt distance length first) false rest
      else none
termination_by digits.length
decreasing_by exact length_lt_of_decodeDistance _read

/-- The label that a text without the mark in front describes. -/
def decode? (text : List Char) : Option (List Char) :=
  let digits := (text.reverse.takeWhile (· ≠ '-')).reverse
  let front := (text.take (text.length - digits.length)).dropLast
  decodeInto front 0x80 0 72 true digits

end Telemetry.Url.Punycode
