/-!
Sets of characters, given as the ranges of their code points, and the operations on them. The
results of operations are ascending ranges that do not touch.
-/
namespace Telemetry.Text

/-- A set of characters: inclusive ranges of code points. -/
abbrev CodePoints := List (Nat × Nat)

namespace CodePoints

/-- Membership of a code point. -/
def hasCode (set : CodePoints) (code : Nat) : Bool :=
  set.any fun (first, last) => first ≤ code && code ≤ last

/-- Membership of a character. -/
def has (set : CodePoints) (c : Char) : Bool := set.hasCode c.toNat

/-- One character. -/
def single (c : Char) : CodePoints := [(c.toNat, c.toNat)]

/-- The last code point there is. -/
def lastCode : Nat := 0x10ffff

/-- Every character. -/
def everything : CodePoints := [(0, lastCode)]

/-- The code point of the next character; surrogates are no characters. -/
def next (code : Nat) : Nat := if code = 0xd7ff then 0xe000 else code + 1

/-- The code point of the character before. -/
def previous (code : Nat) : Nat := if code = 0xe000 then 0xd7ff else code - 1

/-- Ranges in the order of their beginnings, joined where they overlap or touch. -/
def joined : CodePoints → CodePoints
  | [] => []
  | [range] => [range]
  | (first, last) :: (first', last') :: rest =>
    if first' ≤ last + 1 then joined ((first, max last last') :: rest)
    else (first, last) :: joined ((first', last') :: rest)
termination_by set => set.length

/-- The set of any ranges. -/
def ofRanges (ranges : List (Nat × Nat)) : CodePoints :=
  joined (ranges.mergeSort fun a b => a.1 ≤ b.1)

/-- What is in either set. -/
def union (a b : CodePoints) : CodePoints :=
  if a.isEmpty then b else if b.isEmpty then a else ofRanges (a ++ b)

/-- What is in some set of a list. -/
def unionAll (sets : List CodePoints) : CodePoints := ofRanges sets.flatten

/-- What is in both sets. -/
def intersection : CodePoints → CodePoints → CodePoints
  | [], _ => []
  | _, [] => []
  | (first, last) :: xs, (first', last') :: ys =>
    let rest :=
      if last < last' then intersection xs ((first', last') :: ys)
      else intersection ((first, last) :: xs) ys
    if max first first' ≤ min last last' then (max first first', min last last') :: rest else rest
termination_by a b => a.length + b.length

/-- What is in the first set but not in the second. -/
def difference : CodePoints → CodePoints → CodePoints
  | [], _ => []
  | a, [] => a
  | (first, last) :: xs, (first', last') :: ys =>
    if last' < first then difference ((first, last) :: xs) ys
    else if last < first' then (first, last) :: difference xs ((first', last') :: ys)
    else
      let front := if first < first' then [(first, previous first')] else []
      if last' < last then front ++ difference ((next last', last) :: xs) ys
      else front ++ difference xs ((first', last') :: ys)
termination_by a b => a.length + b.length

/-- What is in one of the sets only. -/
def symmetricDifference (a b : CodePoints) : CodePoints :=
  difference (union a b) (intersection a b)

/-- What lies between two ranges. Where that would be surrogates only, it is the characters on
either side of them. -/
def between (last first : Nat) : Nat × Nat :=
  (min (next last) (previous first), max (next last) (previous first))

/-- What lies behind a code point and between the ranges that follow it. -/
def gapsAfter (last : Nat) : CodePoints → CodePoints
  | [] => if last < lastCode then [(next last, lastCode)] else []
  | (first, last') :: rest => between last first :: gapsAfter last' rest

/-- The characters that are not in a set. -/
def complement : CodePoints → CodePoints
  | [] => everything
  | (first, last) :: rest =>
    if first = 0 then gapsAfter last rest else (0, previous first) :: gapsAfter last rest

/-- Whether a set has characters of ASCII only. -/
def isAscii (set : CodePoints) : Bool := set.all fun (_, last) => last < 0x80

end CodePoints
end Telemetry.Text
