import Telemetry.Pattern.Reader
import Telemetry.Route.Table
/-!
Routes whose captures ask for patterns.
-/
namespace Telemetry.Route

/-- Expressions are patterns, unless a template says otherwise. Why one is refused is left open. -/
@[default_instance]
instance : Expressions Pattern where
  readWhole expression := (Pattern.readWhole expression).mapError fun _ => "<regex>"
  isIn := Pattern.isIn

/-- The table of timed routes (`RouteTimings`). -/
abbrev Table := Routes Pattern

end Telemetry.Route
