import Telemetry.Decimal.Reader
import Telemetry.Json.Basic

/-! A reader of documents that knows nothing of how they are written. It cuts a text into tokens,
blanks between them left out, and puts values together on a stack of what is still open. It is strict:
no control inside a string, no zero in front of a number, no comma too many. -/
namespace Telemetry.Json

/-- What the text of a document is made of. -/
inductive Token where
  | openArray
  | closeArray
  | openObject
  | closeObject
  | comma
  | colon
  | string (s : String)
  | scalar (value : Json)

/-- A token of one character. -/
def mark? : Char → Option Token
  | '[' => some .openArray
  | ']' => some .closeArray
  | '\x7b' => some .openObject
  | '\x7d' => some .closeObject
  | ',' => some .comma
  | ':' => some .colon
  | _ => none

/-- What may stand between tokens. -/
def isBlank (c : Char) : Bool := c = ' ' || c = '\t' || c = '\n' || c = '\r'

/-- Whether a character belongs to a word, which is a number or a name of a value. -/
def isInWord (c : Char) : Bool := !isBlank c && c ≠ '"' && (mark? c).isNone

/-- The character that a letter after a backslash stands for. -/
def escaped? : Char → Option Char
  | '"' => some '"'
  | '\\' => some '\\'
  | '/' => some '/'
  | 'b' => some '\x08'
  | 'f' => some '\x0c'
  | 'n' => some '\n'
  | 'r' => some '\r'
  | 't' => some '\t'
  | _ => none

/-- The value of a hexadecimal digit. -/
def hexDigit? (c : Char) : Option Nat :=
  if c.isDigit then some (c.toNat - '0'.toNat)
  else if 'a' ≤ c ∧ c ≤ 'f' then some (c.toNat - 'a'.toNat + 10)
  else if 'A' ≤ c ∧ c ≤ 'F' then some (c.toNat - 'A'.toNat + 10)
  else none

/-- The character of a code in four hexadecimal digits; half of a pair is none. -/
def coded? (a b c d : Char) : Option Char := do
  let code := ((← hexDigit? a) * 16 + (← hexDigit? b)) * 256 + ((← hexDigit? c) * 16 + (← hexDigit? d))
  if code.isValidChar then some (Char.ofNat code) else none

/-- One more character in front of a string that was read. -/
def onto (c : Char) (read : List Char × List Char) : List Char × List Char := (c :: read.1, read.2)

/-- A string up to its closing quote, and what follows. -/
def string? : List Char → Option (List Char × List Char)
  | [] => none
  | c :: rest =>
    if c = '"' then some ([], rest)
    else if c = '\\' then
      match rest with
      | [] => none
      | kind :: rest =>
        if kind = 'u' then
          match rest with
          | a :: b :: c :: d :: rest =>
            match coded? a b c d with
            | none => none
            | some char => (string? rest).map (onto char)
          | _ => none
        else
          match escaped? kind with
          | none => none
          | some char => (string? rest).map (onto char)
    else if c.toNat < 0x20 then none
    else (string? rest).map (onto c)

/-- Whether a number without its sign has digits first, no zero in front of others, and digits behind
its point if it has one. -/
def isGrammatical (text : List Char) : Bool :=
  let whole := text.takeWhile Char.isDigit
  let rest := text.dropWhile Char.isDigit
  (whole = ['0'] || !whole.isEmpty && whole.head? ≠ some '0') &&
    (rest.head? ≠ some '.' || (rest.drop 1).head?.any Char.isDigit)

/-- A number: whole if it is nothing but digits, and otherwise the nearest double. -/
def unsigned? (negative : Bool) (text : List Char) : Option Json :=
  if !isGrammatical text then none
  else if text.all Char.isDigit then
    let value : Int := Decimal.digitsValue text
    some (.integer (if negative then -value else value))
  else (Decimal.readUnsigned negative text).map .number

/-- A word. -/
def scalar? : List Char → Option Json
  | '-' :: rest => unsigned? true rest
  | word => if word = "null".toList then some .null else unsigned? false word

private theorem exists_of_map_onto {c : Char} {rest chars after : List Char}
    (read : (string? rest).map (onto c) = some (chars, after)) :
    ∃ more, string? rest = some (more, after) := by
  obtain ⟨⟨more, behind⟩, inner, same⟩ := Option.map_eq_some_iff.mp read
  cases same
  exact ⟨more, inner⟩

private theorem length_string? {text chars after : List Char}
    (read : string? text = some (chars, after)) : after.length < text.length := by
  fun_induction string? text generalizing chars after with
  | case2 rest =>
    cases read
    exact Nat.lt_succ_self _
  | case5 a b c d rest char _ _ ih =>
    obtain ⟨more, inner⟩ := exists_of_map_onto read
    have := ih inner
    simp only [List.length_cons]
    omega
  | case8 kind rest _ char _ _ ih =>
    obtain ⟨more, inner⟩ := exists_of_map_onto read
    have := ih inner
    simp only [List.length_cons]
    omega
  | case10 c rest _ _ _ ih =>
    obtain ⟨more, inner⟩ := exists_of_map_onto read
    exact Nat.lt_succ_of_lt (ih inner)
  | _ => cases read

/-- The tokens of a text. -/
def tokens? (text : List Char) : Option (List Token) :=
  match text with
  | [] => some []
  | c :: rest =>
    if isBlank c then tokens? rest
    else if c = '"' then
      match _read : string? rest with
      | none => none
      | some (chars, after) => (tokens? after).map (.string (String.ofList chars) :: ·)
    else match mark? c with
      | some token => (tokens? rest).map (token :: ·)
      | none =>
        match scalar? (c :: rest.takeWhile isInWord) with
        | none => none
        | some value => (tokens? (rest.dropWhile isInWord)).map (.scalar value :: ·)
termination_by text.length
decreasing_by
  · simp
  · exact Nat.lt_succ_of_lt (length_string? _read)
  · simp
  · exact Nat.lt_succ_of_le (List.dropWhile_sublist _).length_le

/-- An array or an object that is still open, with what it has so far, the latest first. -/
inductive Frame where
  | array (before : List Json)
  | object (before : List (String × Json)) (name : String)

mutual
/-- Goes on where a value has to come, or the end of an array without any. -/
def value? (stack : List Frame) : List Token → Option Json
  | .scalar value :: rest => after? value stack rest
  | .string s :: rest => after? (.string s) stack rest
  | .openArray :: rest => value? (.array [] :: stack) rest
  | .closeArray :: rest =>
    match stack with
    | .array [] :: outer => after? (.array []) outer rest
    | _ => none
  | .openObject :: rest => name? [] stack rest
  | _ => none

/-- Goes on where the name of a field has to come, or the end of an object without any. -/
def name? (before : List (String × Json)) (stack : List Frame) : List Token → Option Json
  | .string name :: .colon :: rest => value? (.object before name :: stack) rest
  | .closeObject :: rest => if before.isEmpty then after? (.object []) stack rest else none
  | _ => none

/-- Goes on behind a value. -/
def after? (value : Json) (stack : List Frame) : List Token → Option Json
  | [] =>
    match stack with
    | [] => some value
    | _ => none
  | .comma :: rest =>
    match stack with
    | .array before :: outer => value? (.array (value :: before) :: outer) rest
    | .object before name :: outer => name? ((name, value) :: before) outer rest
    | [] => none
  | .closeArray :: rest =>
    match stack with
    | .array before :: outer => after? (.array (value :: before).reverse) outer rest
    | _ => none
  | .closeObject :: rest =>
    match stack with
    | .object before name :: outer => after? (.object ((name, value) :: before).reverse) outer rest
    | _ => none
  | _ => none
end

/-- The document that a text says. -/
def read? (text : String) : Option Json := (tokens? text.toList).bind (value? [])

end Telemetry.Json
