import Telemetry.Pattern.Bracket
import Telemetry.Pattern.Size
import Telemetry.Text.Newest
/-!
Reading patterns. Every construct is read from the front of the text and leaves the rest; a reader
that calls itself takes a bound that is one more than the length of its text, and uses up at least
one character for each unit of it.
-/
namespace Telemetry.Pattern

/-- A pattern, and how deeply its text is nested. -/
structure Nested where
  pattern : Pattern
  depth : Nat := 0

/-- The groups so far: their number, and the names of those that have one. -/
structure Groups where
  count : Nat := 0
  names : List (List Char) := []

/-- A number in braces. White space around it never counts. -/
def readCount (flags : Flags) : Nat → Option Nat → List Char → Except Fault (Nat × List Char)
  | bound + 1, found, c :: rest =>
    if c.isDigit then
      readCount flags bound (some (10 * found.getD 0 + (c.toNat - '0'.toNat))) (flags.skip rest)
    else finish found (c :: rest)
  | _, found, text => finish found text
where
  /-- The number, if there is one that is small enough. -/
  finish (found : Option Nat) (text : List Char) : Except Fault (Nat × List Char) :=
    match found with
    | some n =>
      if n < 2 ^ 32 then .ok (n, flags.skip (text.dropWhile Text.isBlank)) else .error .badCount
    | none => .error .badCount

/-- How often something is repeated, from behind the opening brace. -/
def readCounts (flags : Flags) (text : List Char) :
    Except Fault ((Nat × Option Nat) × List Char) := do
  let count (text : List Char) : Except Fault (Nat × List Char) :=
    let text := (flags.skip text).dropWhile Text.isBlank
    readCount flags (text.length + 1) none text
  let (min, rest) ← count text
  match rest with
  | '\x7d' :: rest => return ((min, some min), rest)
  | ',' :: rest =>
    match flags.skip rest with
    | '\x7d' :: rest => return ((min, none), rest)
    | rest =>
      let (max, rest) ← count rest
      match rest with
      | '\x7d' :: rest => if max < min then throw .badCount else return ((min, some max), rest)
      | _ => throw .badCount
  | _ => throw .badCount

/-- Whether a character may begin the name of a group. -/
def beginsName (c : Char) : Bool :=
  c = '_' || Text.Property.alphabetic.has c || Text.Newest.alphabetic.has c

/-- Whether a character may be inside the name of a group. -/
def continuesName (c : Char) : Bool :=
  beginsName c || ['.', '[', ']'].contains c || Text.Newest.numbers.has c ||
    [Text.Category.nd, .nl, .no].contains (Text.category c)

/-- The name of a group up to its closing angle bracket. -/
def readName (text : List Char) : Except Fault (List Char × List Char) :=
  match text.span (· ≠ '>') with
  | (c :: name, '>' :: rest) =>
    if beginsName c && name.all continuesName then .ok (c :: name, rest) else .error .badGroupName
  | _ => .error .badGroupName

/-- Items one after the other, the last one first; what only sets flags is no pattern. -/
def inSequence (items : List (Option Nested)) : Nested :=
  match items.reverse.map (·.getD ⟨.empty, 0⟩) with
  | [item] => item
  | items =>
    ⟨sequence (items.map (·.pattern)),
      if items.isEmpty then 0 else (items.map (·.depth)).foldl max 0 + 1⟩

/-- Alternatives, the last one first. -/
def asChoice (alternatives : List Nested) : Nested :=
  match alternatives with
  | [only] => only
  | alternatives =>
    ⟨choose (alternatives.reverse.map (·.pattern)),
      (alternatives.map (·.depth)).foldl max 0 + 1⟩

/-- A dot. -/
def dot (flags : Flags) : Except Fault Pattern :=
  if !flags.unicode then .error .partialCharacter
  else if flags.dotAll then .ok (ofSet .everything)
  else if flags.crlf then .ok (ofSet (Text.CodePoints.complement [(0xa, 0xa), (0xd, 0xd)]))
  else .ok (ofSet (Text.CodePoints.complement [(0xa, 0xa)]))

/-- One character that stands for itself. -/
def verbatim (flags : Flags) (c : Char) : Pattern := ofSet (flags.cased (.single c))

/-- What an escape means outside a class. -/
def ofEscape (flags : Flags) : Escape → Pattern
  | .literal c => verbatim flags c
  | .chars set => ofSet set
  | .look condition => .look condition

/-- Repeats the last item. A question mark behind that asks for few repetitions. -/
def repeatLast (flags : Flags) (items : List (Option Nested)) (min : Nat) (max : Option Nat)
    (rest : List Char) : Except Fault (List (Option Nested) × List Char) :=
  match items with
  | some item :: items =>
    let (asked, rest) := match rest with
      | '?' :: rest => (true, rest)
      | rest => (false, rest)
    let repeated := item.pattern.times min max (asked == flags.frugal)
    .ok (some ⟨repeated, item.depth + 1⟩ :: items, rest)
  | _ => .error .nothingToRepeat

/-- How a group begins. -/
inductive GroupStart where
  /-- Only flags, for what follows in the group around. -/
  | flags (flags : Flags)
  /-- A group under some flags that cannot be referred to. -/
  | unnumbered (flags : Flags)
  /-- A group that can be referred to, perhaps by a name. -/
  | numbered (name : Option (List Char))

/-- The beginning of a group, from behind its opening bracket. -/
def readGroupStart (flags : Flags) (text : List Char) : Except Fault (GroupStart × List Char) :=
  let named (text : List Char) : Except Fault (GroupStart × List Char) := do
    let (name, rest) ← readName text
    return (.numbered (some name), rest)
  match flags.skip text with
  | '?' :: '=' :: _ | '?' :: '!' :: _ | '?' :: '<' :: '=' :: _ | '?' :: '<' :: '!' :: _ =>
    .error .noLookAround
  | '?' :: 'P' :: '<' :: rest => named rest
  | '?' :: '<' :: rest => named rest
  | '?' :: ')' :: _ => .error .nothingToRepeat
  | '?' :: rest => do
    let (set, rest) ← flags.read false [] rest
    match rest with
    | ')' :: rest => return (.flags set, rest)
    | _ :: rest => return (.unnumbered set, rest)
    | [] => throw .badFlag
  | rest => .ok (.numbered none, rest)

/-- Reads alternatives up to a closing bracket or the end. `earlier` are the alternatives and `items`
the items of this one, the last one first. -/
def readItems : Nat → Flags → Groups → List Nested → List (Option Nested) → List Char →
    Except Fault ((Nested × Groups) × List Char)
  | 0, _, _, _, _, _ => .error .unclosedGroup
  | bound + 1, flags, groups, earlier, items, text =>
    let next (item : Nested) (rest : List Char) :=
      readItems bound flags groups earlier (some item :: items) rest
    let repeatedly (min : Nat) (max : Option Nat) (rest : List Char) := do
      let (items, rest) ← repeatLast flags items min max rest
      readItems bound flags groups earlier items rest
    let inner (flags' : Flags) (groups : Groups) (close : Pattern → Pattern) (rest : List Char) := do
      let ((nested, groups), rest) ← readItems bound flags' groups [] [] rest
      let item : Nested := ⟨close nested.pattern, nested.depth + 1⟩
      match rest with
      | ')' :: rest => readItems bound flags groups earlier (some item :: items) rest
      | _ => throw .unclosedGroup
    match flags.skip text with
    | [] => .ok ((asChoice (inSequence items :: earlier), groups), [])
    | ')' :: rest => .ok ((asChoice (inSequence items :: earlier), groups), ')' :: rest)
    | '|' :: rest => readItems bound flags groups (inSequence items :: earlier) [] rest
    | '(' :: rest => do
      match ← readGroupStart flags rest with
      | (.flags flags, rest) => readItems bound flags groups earlier (none :: items) rest
      | (.unnumbered flags, rest) => inner flags groups id rest
      | (.numbered name, rest) =>
        if name.any groups.names.contains then throw .badGroupName
        else inner flags ⟨groups.count + 1, name.toList ++ groups.names⟩ (.group groups.count) rest
    | '*' :: rest => repeatedly 0 none rest
    | '+' :: rest => repeatedly 1 none rest
    | '?' :: rest => repeatedly 0 (some 1) rest
    | '\x7b' :: rest =>
      if items.head?.join.isNone then .error .nothingToRepeat
      else do
        let ((min, max), rest) ← readCounts flags rest
        repeatedly min max (flags.skip rest)
    | '[' :: rest => do
      let (nested, rest) ← readClass flags rest
      next ⟨ofSet nested.set, nested.depth⟩ rest
    | '\\' :: rest => do
      let (escape, rest) ← readEscape flags rest
      next ⟨ofEscape flags escape, 0⟩ rest
    | '.' :: rest => do next ⟨← dot flags, 0⟩ rest
    | '^' :: rest =>
      next ⟨.look (if flags.multiline then .lineStart flags.crlf else .textStart), 0⟩ rest
    | '$' :: rest =>
      next ⟨.look (if flags.multiline then .lineEnd flags.crlf else .textEnd), 0⟩ rest
    | c :: rest => next ⟨verbatim flags c, 0⟩ rest

/-- How deeply the text of a pattern may be nested. -/
def depthLimit : Nat := 250

/-- The pattern of a text. -/
def read (text : String) : Except Fault Pattern := do
  let chars := text.toList
  let ((nested, _), rest) ← readItems (chars.length + 1) {} {} [] [] chars
  if !rest.isEmpty then throw .unopenedGroup
  else if depthLimit < nested.depth then throw .tooDeep
  else return nested.pattern

/-- A pattern for a whole text (`Regex::new`): the expression is set between the beginning and the
end. -/
def readWhole (expression : String) : Except Fault Pattern := do
  let pattern ← read ("^(?:" ++ expression ++ ")$")
  if pattern.isTooLarge then throw .tooLarge else return pattern

end Telemetry.Pattern
