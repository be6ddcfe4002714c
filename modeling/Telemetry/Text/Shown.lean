import Telemetry.Text.Newest
import Telemetry.Text.Property
/-!
Which characters a quoted text shows as they are: the assigned ones that are no controls, no
format or private-use characters and no separators but the ordinary space, and that neither extend
the grapheme before them nor stand for a place that is left empty.
-/
namespace Telemetry.Text

/-- The categories of characters that cannot be seen by themselves. -/
def hiddenCategories : List Category := [.cc, .cf, .cs, .co, .cn, .zl, .zp, .zs, .mn, .me]

/-- The letters that only fill a place. -/
def fillers : CodePoints := [(0x115f, 0x1160), (0x3164, 0x3164), (0xffa0, 0xffa0)]

/-- Whether a character with room of its own still extends the grapheme before it. The voicing marks
of half width do not: they are letters. -/
def extendsGrapheme (c : Char) : Bool := Property.otherGraphemeExtend.has c && category c ≠ .lm

/-- Whether a quoted text shows a character as it is. -/
def isShown (c : Char) : Bool :=
  c = ' ' || Newest.visible.has c ||
    (!hiddenCategories.contains (category c) && !fillers.has c && !extendsGrapheme c)

end Telemetry.Text
