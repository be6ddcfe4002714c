import Telemetry.Export.Path
/-!
One line for each number: its hierarchical name, its value and the time in whole seconds.
-/
namespace Telemetry.Plaintext

/-- The second that a wall time falls into, also before the epoch. -/
def timestamp (wallMillis : Int) : Int := wallMillis.fdiv 1000

/-- The line of one number. -/
def line (wallMillis : Int) (id : MeterId) (measurement : Measurement) : String :=
  Path.name id measurement.statistic ++ " " ++ Decimal.plain.write measurement.value ++ " " ++
    toString (timestamp wallMillis) ++ "\n"

/-- The lines of a snapshot (`format_lines`). -/
def lines (snapshot : Snapshot) (wallMillis : Int) : List String :=
  snapshot.flatMap fun reading => reading.measurements.map (line wallMillis reading.id)

/-- A snapshot as text. -/
def render (snapshot : Snapshot) (wallMillis : Int) : String :=
  String.join (lines snapshot wallMillis)

end Telemetry.Plaintext
