/-!
The backends that readings can be exported to.
-/
namespace Telemetry

/-- A backend (`BackendKind`); `simple` keeps the readings in memory. -/
inductive Backend where
  | datadog
  | graphite
  | ganglia
  | prometheus
  | simple
deriving DecidableEq, Repr

namespace Backend

/-- The name of a backend (`BackendKind::fmt`). -/
def name : Backend → String
  | datadog => "datadog"
  | graphite => "graphite"
  | ganglia => "ganglia"
  | prometheus => "prometheus"
  | simple => "simple"

/-- The backend of a name. -/
def ofName? (name : String) : Option Backend :=
  [datadog, graphite, ganglia, prometheus, simple].find? (·.name = name)

/-- The order in which backends are tried when no other is given (`BackendSelector::default`). -/
def priority : List Backend := [datadog, graphite, ganglia, prometheus]

end Backend
end Telemetry
