import Telemetry.Text.Split
/-!
Paths as lists of segments. Slashes in front never count, and one slash at the end does not either.
-/
namespace Telemetry.Route

/-- A path without the slashes in front and without one at the end. -/
def trimSlashes (path : List Char) : List Char :=
  let path := path.dropWhile (· = '/')
  if path.getLast? = some '/' then path.dropLast else path

/-- The segments of a path (`split_path`); a path of slashes has none. -/
def segments (path : List Char) : List (List Char) :=
  let trimmed := trimSlashes path
  if trimmed.isEmpty then [] else Text.splitOn '/' trimmed

end Telemetry.Route
