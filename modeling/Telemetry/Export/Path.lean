import Telemetry.Reading
import Telemetry.Text.Split
/-!
Hierarchical names, whose levels are separated by dots: the levels of the meter's name, a level for
each tag key and each tag value, and the statistic. What is written into a level cannot hold a dot,
so tags add exactly two levels each.
-/
namespace Telemetry.Path

/-- Whether a level keeps a character as it is. -/
def isKept (c : Char) : Bool := c.isAlphanum || c = '_' || c = '-'

/-- A text as one level (`sanitize`). -/
def level (text : List Char) : List Char := text.map fun c => if isKept c then c else '_'

/-- The levels of one tag. -/
def tagLevels (tag : String × String) : List (List Char) :=
  [level tag.1.toList, level tag.2.toList]

/-- The levels of a number of a meter. -/
def levels (id : MeterId) (statistic : Statistic) : List (List Char) :=
  (Text.splitOn '.' id.name.toList).map level ++ id.tags.entries.flatMap tagLevels ++
    [statistic.suffix.toList]

/-- The hierarchical name of a number of a meter (`HierarchicalNameMapper::name`). -/
def name (id : MeterId) (statistic : Statistic) : String :=
  String.ofList (List.intercalate ['.'] (levels id statistic))

end Telemetry.Path
