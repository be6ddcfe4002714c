import Std.Data.HashMap
import Telemetry.Pattern.Basic
import Telemetry.Text.ByteRows
/-!
How much room a pattern takes. It is laid out as an automaton on bytes, in which what is counted
stands as often as it is counted, once for reading forward and once for reading backward. A pattern
is too large if one of the two takes more than ten mebibytes.

States are numbered in the order in which they are laid out. States of characters beyond ASCII are
shared where they agree, as far as a table of the last ones knows; a state's place in that table
depends on the numbers of the states it leads to, and a newer state displaces an older one.
-/
namespace Telemetry

open Text (CodePoints ByteRange)

/-- An automaton that is being laid out: how many states it has, and the room for them. -/
structure Room where
  states : Nat := 0
  bytes : Nat := 0
deriving DecidableEq, Repr

/-- The way in which an automaton reads a text. -/
inductive Direction where
  | forward
  | backward
deriving DecidableEq, Repr

namespace Room

/-- The most room that a pattern may take. -/
def limit : Nat := 10 * 2 ^ 20

/-- Whether there is more than a pattern may take. -/
def isFull (room : Room) : Bool := limit < room.bytes

/-- Some states that lead to one state each, or to none. -/
def plain (room : Room) (count : Nat := 1) : Room :=
  ⟨room.states + count, room.bytes + 32 * count⟩

/-- A state that leads on by some ranges of bytes. -/
def edges (room : Room) (count : Nat) : Room := ⟨room.states + 1, room.bytes + 32 + 8 * count⟩

/-- A state with some ways to go on without reading. -/
def fork (room : Room) (count : Nat) : Room := ⟨room.states + 1, room.bytes + 32 + 4 * count⟩

/-- The same a number of times; what is full already is left as it is. -/
def copies (lay : Room → Room) : Nat → Room → Room
  | 0, room => room
  | n + 1, room => if room.isFull then room else copies lay n (lay room)

/-- Mixes a number into a place, as 64 binary digits. -/
def mix (hash : UInt64) (n : Nat) : UInt64 := (hash ^^^ n.toUInt64) * 1099511628211

/-- The place of some numbers in a table of a size. -/
def place (size : Nat) (numbers : List Nat) : Nat :=
  (numbers.foldl mix 14695981039346656037).toNat % size

/-- The states that a table knows: at each place what leads to a state, and its number. -/
abbrev Known := Std.HashMap Nat (List Nat × Nat)

/-- What is laid out, and which of its states are known. -/
structure Sharing where
  room : Room
  known : Known := ∅

/-- A state that is known by some numbers, or else is laid out and known from then on. -/
def Sharing.state (sharing : Sharing) (size : Nat) (numbers : List Nat) (lay : Room → Room) :
    Sharing × Nat :=
  let place := place size numbers
  match sharing.known[place]? with
  | some (key, state) =>
    if key = numbers then (sharing, state)
    else (⟨lay sharing.room, sharing.known.insert place (numbers, sharing.room.states)⟩,
      sharing.room.states)
  | none => (⟨lay sharing.room, sharing.known.insert place (numbers, sharing.room.states)⟩,
      sharing.room.states)

/-- Rows with the same first range that follow one another, as that range and the rows behind it. -/
def groupRows : List (List ByteRange) → List (ByteRange × List (List ByteRange))
  | [] => []
  | [] :: rows => groupRows rows
  | (range :: row) :: rows =>
    match groupRows rows with
    | (next, tails) :: groups =>
      if next = range then (range, row :: tails) :: groups
      else (range, [row]) :: (next, tails) :: groups
    | [] => [(range, [row])]

/-- Lays out the states for rows of at most some ranges, forward, and gives the number of the first
one. All rows lead to the state `target`, and states that agree are shared. -/
def layRows (target : Nat) : Nat → List (List ByteRange) → Sharing → Sharing × Nat
  | 0, _, sharing => (sharing, target)
  | length + 1, rows, sharing =>
    let groups := groupRows rows
    if groups.isEmpty then (sharing, target)
    else
      let (sharing, edges) := groups.foldl (fun (sharing, edges) (range, tails) =>
        let (sharing, state) := layRows target length tails sharing
        (sharing, (range, state) :: edges)) (sharing, [])
      sharing.state 10000 (edges.reverse.flatMap fun (range, state) => [range.1, range.2, state])
        (·.edges edges.length)

/-- Lays out the states for a row of ranges, backward; of rows that begin alike the beginnings are
shared. -/
def layRow (target : Nat) (row : List ByteRange) (sharing : Sharing) : Sharing × Nat :=
  row.foldl (fun (sharing, state) range =>
    sharing.state 1000 [state, range.1, range.2] Room.plain) (sharing, target)

/-- Lays out a set of characters. -/
def laySet (direction : Direction) (set : CodePoints) (room : Room) : Room :=
  if set.isAscii then room.plain.edges set.length
  else
    let rows := Text.byteRows set
    match direction with
    | .forward => (layRows room.states 4 rows ⟨room.plain, ∅⟩).1.room
    | .backward =>
      let room := (room.fork rows.length).plain
      (rows.foldl (fun sharing row => (layRow (room.states - 1) row sharing).1) ⟨room, ∅⟩).room

/-- The texts that share a beginning, without it, in chunks: a text that ends there ends a chunk,
but at the beginning several such texts count once. -/
def chunks (texts : List (List Nat)) : List (List (List Nat)) :=
  let ended := texts.takeWhile (·.isEmpty)
  let rest := texts.drop ended.length
  let rest := rest.foldr (fun text chunks => match text, chunks with
    | [], chunks => [] :: chunks
    | text, chunk :: chunks => (text :: chunk) :: chunks
    | text, [] => [[text]]) [[]]
  if ended.isEmpty then rest else [] :: rest

/-- Lays out texts of at most some bytes as a tree, in which texts share their beginnings within a
chunk. -/
def layTree : Nat → List (List Nat) → Room → Room
  | 0, _, room => room
  | length + 1, texts, room =>
    if texts.all (·.isEmpty) then room
    else
      let chunks := chunks texts
      let room := chunks.foldl (fun room chunk =>
        let bytes := (chunk.filterMap List.head?).eraseDups
        let room := bytes.foldl (fun room byte =>
          layTree length (chunk.filterMap fun text =>
            if text.head? = some byte then some text.tail else none) room) room
        match bytes.length with
        | 0 => room
        | 1 => room.plain
        | n => room.edges n) room
      room.fork ((chunks.filter (!·.isEmpty)).length + (chunks.length - 1))

end Room

namespace Pattern

/-- The bytes of a text. -/
def textBytes (text : List Char) : List Nat := text.flatMap fun c => Text.codeBytes c.toNat

/-- The text of a literal. -/
def text? : Pattern → Option (List Char)
  | literal text => some text
  | _ => none

/-- What a pattern is that is laid out. -/
inductive Place where
  | whole
  /-- What is left of a choice of some branches, the first of which is laid out: the fork comes behind
  the next branch. -/
  | fromSecond (branches : Nat)
  /-- What is left of a choice with its fork. -/
  | later

/-- Lays out the fork of a choice, if it comes here. -/
def Place.finish (place : Place) (room : Room) : Room :=
  match place with
  | fromSecond branches => (room.fork branches).plain
  | _ => room

/-- Lays out a choice between literals, if it is one. -/
def layLiterals? (direction : Direction) (branches : List Pattern) (room : Room) : Option Room :=
  (branches.mapM text?).map fun texts =>
    let rows := texts.map fun text => match direction with
      | .forward => textBytes text
      | .backward => (textBytes text).reverse
    Room.layTree (rows.foldl (fun n row => max n row.length) 0 + 1) rows room.plain

/-- Lays out a pattern behind what is laid out already. -/
def lay (direction : Direction) : Pattern → Place → Room → Room
  | empty, place, room => place.finish room.plain
  | literal text, place, room => place.finish (room.plain (textBytes text).length)
  | chars set, place, room =>
    place.finish (if room.isFull then room else Room.laySet direction set room)
  | look _, place, room => place.finish room.plain
  | group _ p, place, room => place.finish <| match direction with
    | .forward => (lay direction p .whole room.plain).plain
    | .backward => lay direction p .whole room
  | repeated p min max _, place, room => place.finish <| match min, max with
    | 0, some 1 => (lay direction p .whole (room.fork 2)).plain
    | 0, none =>
      if p.consumes then lay direction p .whole (room.fork 2)
      else (((lay direction p .whole room).fork 2).fork 2).plain
    | min, none => (Room.copies (lay direction p .whole) min room).fork 2
    | min, some max =>
      let counted := if min = 0 then room.plain else Room.copies (lay direction p .whole) min room
      if max = min then counted
      else Room.copies (fun room => lay direction p .whole (room.fork 2)) (max - min) counted.plain
  | seq a b, place, room => place.finish <| match direction with
    | .forward => lay direction b .whole (lay direction a .whole room)
    | .backward => lay direction a .whole (lay direction b .whole room)
  | alt a b, .whole, room =>
    match layLiterals? direction (alt a b).branches room with
    | some room => room
    | none => lay direction b (.fromSecond (alt a b).branches.length) (lay direction a .whole room)
  | alt a b, place, room => lay direction b .later (place.finish (lay direction a .whole room))

/-- Whether a match can only begin where the text does. -/
def beginsText : Pattern → Bool
  | look .textStart => true
  | group _ p => p.beginsText
  | repeated p min _ _ => 0 < min && p.beginsText
  | seq a b => a.beginsText || (a.emptyOnly && b.beginsText)
  | alt a b => a.beginsText && b.beginsText
  | _ => false

/-- Whether a match can only end where the text does. -/
def endsText : Pattern → Bool
  | look .textEnd => true
  | group _ p => p.endsText
  | repeated p min _ _ => 0 < min && p.endsText
  | seq a b => b.endsText || (b.emptyOnly && a.endsText)
  | alt a b => a.endsText && b.endsText
  | _ => false

/-- The room for a whole pattern in one direction: before it comes what passes over a text up to a
match, or nothing if a match cannot be elsewhere, and behind it the state of a match. Forward it is
a group of its own. -/
def room (pattern : Pattern) (direction : Direction) : Room :=
  match direction with
  | .forward =>
    let start : Room := if pattern.beginsText then ({} : Room).plain else passing
    ((pattern.lay .forward .whole start.plain).plain).plain
  | .backward =>
    let start : Room := if pattern.endsText then ({} : Room).plain else passing
    (pattern.lay .backward .whole start).plain
where
  /-- Any bytes any number of times. -/
  passing : Room := ((({} : Room).fork 2).plain).edges 1

/-- Whether a pattern takes more room than it may. -/
def isTooLarge (pattern : Pattern) : Bool :=
  (pattern.room .forward).isFull || (pattern.room .backward).isFull

end Pattern
end Telemetry
