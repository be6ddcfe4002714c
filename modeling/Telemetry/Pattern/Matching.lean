import Telemetry.Pattern.Basic
import Telemetry.Text.Property
/-!
What patterns match. `Pattern.ends` follows all ways through a pattern at once: from a set of
positions in a text it gives the set of positions that the pattern can lead to. Sets of positions are
naturals, one binary digit for each position.
-/
namespace Telemetry

open Text (CodePoints)

/-- Letters and marks, digits, connecting punctuation and joiners. -/
def wordCharacters : CodePoints :=
  .unionAll [Text.Property.alphabetic, Text.charactersOf [.mn, .mc, .me, .nd, .pc],
    Text.Property.joinControls]

/-- The letters and digits of ASCII, and the underscore. -/
def asciiWordCharacters : CodePoints := [(0x30, 0x39), (0x41, 0x5a), (0x5f, 0x5f), (0x61, 0x7a)]

/-- The characters of words. -/
def Words.characters : Words → CodePoints
  | all => wordCharacters
  | ascii => asciiWordCharacters

/-- Whether there is a character, and it belongs to a word. -/
def Words.has (words : Words) (c : Option Char) : Bool := c.any words.characters.has

/-- Whether a condition holds between two characters, either of which may be missing. -/
def Look.holds (before after : Option Char) : Look → Bool
  | textStart => before.isNone
  | textEnd => after.isNone
  | lineStart crlf => match before with
    | none => true
    | some c => c = '\n' || (crlf && c = '\r' && after ≠ some '\n')
  | lineEnd crlf => match after with
    | none => true
    | some c => if crlf then c = '\r' || (c = '\n' && before ≠ some '\r') else c = '\n'
  | wordBoundary words => words.has before != words.has after
  | noWordBoundary words => words.has before == words.has after
  | wordStart words => !words.has before && words.has after
  | wordEnd words => words.has before && !words.has after
  | wordStartHalf words => !words.has before
  | wordEndHalf words => !words.has after

namespace Pattern

/-- The positions below a bound that pass a test. -/
def positions (test : Nat → Bool) : Nat → Nat
  | 0 => 0
  | n + 1 => if test n then positions test n ||| 2 ^ n else positions test n

/-- Follows a step some times, as long as that changes anything. -/
def iterate (follow : Nat → Nat) : Nat → Nat → Nat
  | 0, set => set
  | n + 1, set =>
    let next := follow set
    if next = set then set else iterate follow n next

/-- What any number of steps up to a bound leads to. -/
def saturate (follow : Nat → Nat) : Nat → Nat → Nat
  | 0, set => set
  | n + 1, set =>
    let next := set ||| follow set
    if next = set then set else saturate follow n next

/-- The characters on either side of a position. -/
def around (text : Array Char) (i : Nat) : Option Char × Option Char :=
  (if i = 0 then none else text[i - 1]?, text[i]?)

/-- The positions behind a character that passes a test and begins at a position of a set. -/
def behind (text : Array Char) (test : Char → Bool) (set : Nat) : Nat :=
  (set &&& positions (fun i => (text[i]?).any test) text.size) <<< 1

/-- The positions that a pattern leads to from a set of positions. In a text of `n` characters
more than `n + 1` repetitions lead nowhere new. -/
def ends (text : Array Char) : Pattern → Nat → Nat
  | empty, set => set
  | literal letters, set => letters.foldl (fun set c => behind text (· = c) set) set
  | chars allowed, set => behind text allowed.has set
  | look l, set =>
    set &&& positions (fun i => l.holds (around text i).1 (around text i).2) (text.size + 1)
  | group _ p, set => p.ends text set
  | seq a b, set => b.ends text (a.ends text set)
  | alt a b, set => a.ends text set ||| b.ends text set
  | repeated p min max _, set =>
    let rounds := text.size + 2
    let start := iterate (p.ends text) (Nat.min min rounds) set
    match max with
    | none => saturate (p.ends text) rounds start
    | some max => saturate (p.ends text) (Nat.min (max - min) rounds) start

/-- Whether a pattern matches somewhere in a text (`Regex::is_match`). -/
def isIn (pattern : Pattern) (text : String) : Bool :=
  let text := text.toList.toArray
  pattern.ends text (2 ^ (text.size + 1) - 1) ≠ 0

end Pattern
end Telemetry
