import Telemetry.Naturals
import Telemetry.Text.CodePoints
/-!
Patterns. They are built by functions that bring them into a simple form: a sequence has no sequence
in it and no empty part, letters that follow one another are one literal, a choice has no choice in
it, and what can only match the empty text is repeated at most once. The expressions are those of
the `regex` library, but for its limit on how deeply they are nested and for its words about faults.
-/
namespace Telemetry

open Text (CodePoints)

/-- What words are made of: letters and digits of any kind, or those of ASCII. -/
inductive Words where
  | all
  | ascii
deriving DecidableEq, Repr

/-- A condition on a position between characters. -/
inductive Look where
  | textStart
  | textEnd
  /-- Lines end with a line feed, or with `crlf` also with a carriage return or both. -/
  | lineStart (crlf : Bool)
  | lineEnd (crlf : Bool)
  | wordBoundary (words : Words)
  | noWordBoundary (words : Words)
  | wordStart (words : Words)
  | wordEnd (words : Words)
  | wordStartHalf (words : Words)
  | wordEndHalf (words : Words)
deriving DecidableEq, Repr

/-- A pattern. -/
inductive Pattern where
  | empty
  /-- Some characters, one after the other. -/
  | literal (text : List Char)
  /-- One character of a set. -/
  | chars (set : CodePoints)
  | look (look : Look)
  /-- A group that can be referred to. The number tells groups apart. -/
  | group (number : Nat) (p : Pattern)
  /-- At least `min` and at most `max` times; `greedy` says whether more is better. What is found
  somewhere does not depend on that. -/
  | repeated (p : Pattern) (min : Nat) (max : Option Nat) (greedy : Bool)
  | seq (first rest : Pattern)
  | alt (first rest : Pattern)
deriving DecidableEq, Repr

namespace Pattern

/-- What no text matches. -/
def never : Pattern := chars []

/-- One character of a set. -/
def ofSet : CodePoints → Pattern
  | [(first, last)] =>
    if first = last then literal [Char.ofNat first] else chars [(first, last)]
  | set => chars set

/-- Whether only the empty text can match, and something can. -/
def emptyOnly : Pattern → Bool
  | empty => true
  | literal _ => false
  | chars _ => false
  | look _ => true
  | group _ p => p.emptyOnly
  | repeated p _ max _ => p.emptyOnly && max.isSome
  | seq a b => a.emptyOnly && b.emptyOnly
  | alt a b => a.emptyOnly && b.emptyOnly

/-- How many characters a match has at least, unless some part of the pattern never matches. -/
def minLength? : Pattern → Option Nat
  | empty => some 0
  | literal text => some text.length
  | chars set => if set.isEmpty then none else some 1
  | look _ => some 0
  | group _ p => p.minLength?
  | repeated p min _ _ => p.minLength?.map (min * ·)
  | seq a b => do return (← a.minLength?) + (← b.minLength?)
  | alt a b => do return min (← a.minLength?) (← b.minLength?)

/-- Whether every match has at least one character. -/
def consumes (p : Pattern) : Bool := p.minLength?.any (0 < ·)

/-- The parts of a sequence; a pattern of another kind is its only part, and the empty one has
none. -/
def parts : Pattern → List Pattern
  | empty => []
  | seq a b => a :: b.parts
  | p => [p]

/-- The branches of a choice; a pattern of another kind is its only branch. -/
def branches : Pattern → List Pattern
  | alt a b => a :: b.branches
  | p => [p]

/-- Literals that follow one another as one. -/
def joinLiterals : List Pattern → List Pattern
  | [] => []
  | literal first :: rest =>
    match joinLiterals rest with
    | literal second :: rest => literal (first ++ second) :: rest
    | rest => literal first :: rest
  | p :: rest => p :: joinLiterals rest

/-- Parts in a row. -/
def row : List Pattern → Pattern
  | [] => empty
  | [p] => p
  | p :: rest => seq p (row rest)

/-- One pattern after the other. -/
def sequence (patterns : List Pattern) : Pattern := row (joinLiterals (patterns.flatMap parts))

/-- At least `min` and at most `max` times a pattern. -/
def times (p : Pattern) (min : Nat) (max : Option Nat) (greedy : Bool) : Pattern :=
  let (min, max) := if p.emptyOnly then (Nat.min min 1, some (Nat.min (max.getD 1) 1)) else (min, max)
  if max = some 0 then empty
  else if min = 1 ∧ max = some 1 then p
  else repeated p min max greedy

/-- The character of a literal that has only one. -/
def onlyChar? : Pattern → Option Char
  | literal [c] => some c
  | _ => none

/-- The set of a pattern that is one character of a set. -/
def set? : Pattern → Option CodePoints
  | chars set => some set
  | _ => none

/-- How many members two lists have in common in front. -/
def commonLength [DecidableEq α] : List α → List α → Nat
  | a :: as, b :: bs => if a = b then commonLength as bs + 1 else 0
  | _, _ => 0

/-- How many parts all branches have in common in front, if all are sequences. -/
def sharedLength : List Pattern → Nat
  | [] => 0
  | first :: rest =>
    if (first :: rest).all (1 < ·.parts.length) then
      rest.foldl (fun n p => min n (commonLength first.parts p.parts)) first.parts.length
    else 0

/-- Branches beside one another. -/
def fork : List Pattern → Pattern
  | [] => never
  | [p] => p
  | p :: rest => alt p (fork rest)

/-- The number of a pattern's nodes. -/
def nodes : Pattern → Nat
  | group _ p => p.nodes + 1
  | repeated p _ _ _ => p.nodes + 1
  | seq a b => a.nodes + b.nodes + 1
  | alt a b => a.nodes + b.nodes + 1
  | _ => 1

/-- A choice, where the bound is the number of times that a common front can be taken out. -/
def chooseWithin : Nat → List Pattern → Pattern
  | 0, patterns => fork (patterns.flatMap branches)
  | bound + 1, patterns =>
    let all := patterns.flatMap branches
    if all.length < 2 then fork all
    else match all.mapM onlyChar? with
      | some found => ofSet (.ofRanges (found.map fun c => (c.toNat, c.toNat)))
      | none => match all.mapM set? with
        | some sets => ofSet (.unionAll sets)
        | none =>
          let shared := sharedLength all
          if shared = 0 then fork all
          else
            let front := (all.head?.map parts).getD []
            sequence (front.take shared ++
              [chooseWithin bound (all.map fun p => sequence (p.parts.drop shared))])

/-- One of some patterns. Single characters make a set, and what all branches begin with is taken
out of them. -/
def choose (patterns : List Pattern) : Pattern :=
  chooseWithin (patterns.map nodes).sum patterns

end Pattern
end Telemetry
