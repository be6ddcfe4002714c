import Telemetry.Text.Category
import Telemetry.Text.Newest
/-!
Marks: characters that belong to the one before them.
-/
namespace Telemetry.Text

/-- Whether a character is a mark. -/
def isMark (c : Char) : Bool :=
  Newest.marks.has c || [.mn, .mc, .me].contains (category c)

/-- Whether a character is a mark that takes no room of its own. -/
def isNonspacing (c : Char) : Bool :=
  (Newest.marks.has c && !Newest.visible.has c) || [.mn, .me].contains (category c)

end Telemetry.Text
