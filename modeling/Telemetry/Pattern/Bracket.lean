import Telemetry.Pattern.Escape
/-!
Classes in square brackets: characters, ranges, escapes, named classes and other classes, with set
operations between them. A class is read together with how deeply its text is nested.
-/
namespace Telemetry.Pattern

open Text (CodePoints)

/-- The classes that have a name between colons. -/
def namedClasses : List (String × CodePoints) :=
  [("alnum", [(0x30, 0x39), (0x41, 0x5a), (0x61, 0x7a)]),
   ("alpha", [(0x41, 0x5a), (0x61, 0x7a)]),
   ("ascii", [(0, 0x7f)]),
   ("blank", [(0x9, 0x9), (0x20, 0x20)]),
   ("cntrl", [(0, 0x1f), (0x7f, 0x7f)]),
   ("digit", [(0x30, 0x39)]),
   ("graph", [(0x21, 0x7e)]),
   ("lower", [(0x61, 0x7a)]),
   ("print", [(0x20, 0x7e)]),
   ("punct", [(0x21, 0x2f), (0x3a, 0x40), (0x5b, 0x60), (0x7b, 0x7e)]),
   ("space", [(0x9, 0xd), (0x20, 0x20)]),
   ("upper", [(0x41, 0x5a)]),
   ("word", [(0x30, 0x39), (0x41, 0x5a), (0x5f, 0x5f), (0x61, 0x7a)]),
   ("xdigit", [(0x30, 0x39), (0x41, 0x46), (0x61, 0x66)])]

/-- A set, and how deeply its text is nested. -/
structure NestedSet where
  set : CodePoints
  depth : Nat := 0

/-- Items of a class: what is in some of them, how many they are, and how deeply they are nested. -/
structure ClassItems where
  ranges : List (Nat × Nat) := []
  count : Nat := 0
  depth : Nat := 0

namespace ClassItems

/-- Adds an item. -/
def add (items : ClassItems) (item : NestedSet) : ClassItems :=
  ⟨item.set ++ items.ranges, items.count + 1, max items.depth item.depth⟩

/-- What is in some of the items. Several items are one level deeper. -/
def union (items : ClassItems) : NestedSet :=
  ⟨.ofRanges items.ranges, if 1 < items.count then items.depth + 1 else items.depth⟩

end ClassItems

/-- The set operations between classes. -/
inductive SetOperation where
  | intersection
  | difference
  | symmetricDifference

/-- Carries out a set operation. -/
def SetOperation.apply (a b : CodePoints) : SetOperation → CodePoints
  | intersection => a.intersection b
  | difference => a.difference b
  | symmetricDifference => a.symmetricDifference b

/-- Carries out an operation that waited for its right-hand side. -/
def applyPending (flags : Flags) (pending : Option (NestedSet × SetOperation))
    (right : NestedSet) : NestedSet :=
  match pending with
  | none => right
  | some (left, operation) =>
    ⟨operation.apply (flags.cased left.set) (flags.cased right.set),
      max left.depth right.depth + 1⟩

/-- A character in a class. Without the full character set it has to be of ASCII. -/
def classChar (flags : Flags) (c : Char) : Except Fault Char :=
  if flags.unicode || c.toNat < 0x80 then .ok c else .error .partialCharacter

/-- One end of a range, or something that can be no end. -/
def readClassItem (flags : Flags) :
    List Char → Except Fault ((Char ⊕ CodePoints) × List Char)
  | [] => .error .unclosedClass
  | '\\' :: rest => do
    match ← readEscape flags rest with
    | (.literal c, rest) => return (.inl (← classChar flags c), rest)
    | (.chars set, rest) => return (.inr set, rest)
    | (.look _, _) => throw .badEscape
  | c :: rest => (classChar flags c).map (.inl ·, rest)

/-- In verbose mode, the first character behind white space. A comment does not hide its first
visible character. -/
def peekPast (inComment : Bool) : List Char → Option Char
  | [] => none
  | c :: rest =>
    if Text.isBlank c then peekPast inComment rest
    else if c = '#' && !inComment then peekPast true rest
    else some c

/-- Whether a hyphen in front of a text makes a range with what follows. It does not in front of the
end of the class or of another hyphen. -/
def beginsRange (flags : Flags) (text : List Char) : Bool :=
  let next := if flags.verbose then peekPast false text else text.head?
  next ≠ some ']' && next ≠ some '-'

/-- A character, a range of characters, or an escape. -/
def readRange (flags : Flags) (text : List Char) : Except Fault (CodePoints × List Char) := do
  let (first, rest) ← readClassItem flags text
  let alone := match first with
    | .inl c => .single c
    | .inr set => set
  match flags.skip rest with
  | [] => throw .unclosedClass
  | '-' :: after =>
    if beginsRange flags after then
      let (last, rest) ← readClassItem flags (flags.skip after)
      match first, last with
      | .inl first, .inl last =>
        if last < first then throw .badRange else return ([(first.toNat, last.toNat)], rest)
      | _, _ => throw .badRange
    else return (alone, '-' :: after)
  | rest => return (alone, rest)

/-- A class named between colons, from behind its opening bracket: its set, and whether it is
negated. -/
def namedClass? (text : List Char) : Option ((CodePoints × Bool) × List Char) :=
  match text with
  | ':' :: inner =>
    let (negated, inner) := match inner with
      | '^' :: inner => (true, inner)
      | inner => (false, inner)
    let name := inner.takeWhile (· ≠ ':')
    match inner.drop name.length with
    | ':' :: ']' :: rest =>
      (namedClasses.lookup (String.ofList name)).map fun set => ((set, negated), rest)
    | _ => none
  | _ => none

/-- The hyphens at the beginning of a class stand for themselves. The bound is at least the length
of the text. -/
def openHyphens (flags : Flags) : Nat → ClassItems → List Char → ClassItems × List Char
  | bound + 1, items, '-' :: rest =>
    openHyphens flags bound (items.add ⟨.single '-', 0⟩) (flags.skip rest)
  | _, items, text => (items, text)

/-- The beginning of a class: whether it is negated, and what stands in front for itself. -/
def openClass (flags : Flags) (text : List Char) : (Bool × ClassItems) × List Char :=
  let (negated, text) := match flags.skip text with
    | '^' :: rest => (true, flags.skip rest)
    | text => (false, text)
  match openHyphens flags text.length {} text with
  | (items, ']' :: rest) =>
    if items.count = 0 then ((negated, items.add ⟨.single ']', 0⟩), flags.skip rest)
    else ((negated, items), ']' :: rest)
  | (items, rest) => ((negated, items), rest)

/-- The items of a class up to its closing bracket; `pending` is what the operation so far waits
for. -/
def readClassItems (flags : Flags) : Nat → Bool → Option (NestedSet × SetOperation) → ClassItems →
    List Char → Except Fault (NestedSet × List Char)
  | 0, _, _, _, _ => .error .unclosedClass
  | bound + 1, negated, pending, items, text => do
    let next (item : NestedSet) (rest : List Char) :=
      readClassItems flags bound negated pending (items.add item) rest
    let operation (operation : SetOperation) (rest : List Char) :=
      readClassItems flags bound negated
        (some (applyPending flags pending items.union, operation)) {} rest
    match flags.skip text with
    | [] => throw .unclosedClass
    | '[' :: rest =>
      match namedClass? rest with
      | some ((set, negated), rest) => next ⟨← flags.negated negated (flags.cased set), 0⟩ rest
      | none =>
        let ((negated, start), rest) := openClass flags rest
        let (nested, rest) ← readClassItems flags bound negated none start rest
        next nested rest
    | ']' :: rest =>
      let found := applyPending flags pending items.union
      return (⟨← flags.negated negated (flags.cased found.set), found.depth + 1⟩, rest)
    | '&' :: '&' :: rest => operation .intersection rest
    | '-' :: '-' :: rest => operation .difference rest
    | '~' :: '~' :: rest => operation .symmetricDifference rest
    | text =>
      let (set, rest) ← readRange flags text
      next ⟨set, 0⟩ rest

/-- A class, from behind its opening bracket. -/
def readClass (flags : Flags) (text : List Char) : Except Fault (NestedSet × List Char) :=
  let ((negated, items), rest) := openClass flags text
  readClassItems flags (text.length + 1) negated none items rest

end Telemetry.Pattern
