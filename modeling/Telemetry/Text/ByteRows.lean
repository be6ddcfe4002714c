import Telemetry.Text.CodePoints
/-!
Characters as bytes. A range of characters is cut so that each piece is a row of byte ranges: its
characters are those whose first byte is in the first range, whose second byte is in the second one,
and so on, however these are combined.
-/
namespace Telemetry.Text

/-- Bytes from one to another. -/
abbrev ByteRange := Nat × Nat

/-- The bytes of a code point. -/
def codeBytes (code : Nat) : List Nat :=
  if code < 0x80 then [code]
  else if code < 0x800 then [0xc0 + code / 0x40, 0x80 + code % 0x40]
  else if code < 0x10000 then
    [0xe0 + code / 0x1000, 0x80 + code / 0x40 % 0x40, 0x80 + code % 0x40]
  else
    [0xf0 + code / 0x40000, 0x80 + code / 0x1000 % 0x40, 0x80 + code / 0x40 % 0x40,
      0x80 + code % 0x40]

/-- A range cut behind a code point, and continued at another one. -/
def cutAt (last first : Nat) (range : Nat × Nat) : CodePoints :=
  if range.1 ≤ last ∧ first ≤ range.2 then [(range.1, last), (first, range.2)] else [range]

/-- A range cut into blocks of a size: what is not a whole block is cut off on either side. -/
def cutBlocks (size : Nat) (range : Nat × Nat) : CodePoints :=
  let (first, last) := range
  if first / size = last / size then [range]
  else
    let begin := (first + size - 1) / size * size
    let stop := (last + 1) / size * size
    let front := if first < begin then [(first, begin - 1)] else []
    let back := if stop ≤ last then [(stop, last)] else []
    front ++ (if begin < stop then [(begin, stop - 1)] else []) ++ back

/-- A range cut into pieces that are rows of byte ranges: without surrogates, of one length in
bytes, and with every byte but the first ones that are the same taking all values or the same. -/
def cutRows (range : Nat × Nat) : CodePoints :=
  (((((([range].flatMap (cutAt 0xd7ff 0xe000)).flatMap (cutAt 0x7f 0x80)).flatMap
    (cutAt 0x7ff 0x800)).flatMap (cutAt 0xffff 0x10000)).flatMap (cutBlocks' 0x40)).flatMap
      (cutBlocks' 0x1000)).flatMap (cutBlocks' 0x40000)
where
  /-- Characters of one byte are one row in any case. -/
  cutBlocks' (size : Nat) (range : Nat × Nat) : CodePoints :=
    if range.2 < 0x80 then [range] else cutBlocks size range

/-- The rows of byte ranges of a set, in ascending order. -/
def byteRows (set : CodePoints) : List (List ByteRange) :=
  (set.flatMap cutRows).map fun (first, last) => (codeBytes first).zip (codeBytes last)

end Telemetry.Text
