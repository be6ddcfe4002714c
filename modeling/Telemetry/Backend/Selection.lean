import Telemetry.Export.Endpoint
import Telemetry.Publishing.Publisher
import Telemetry.Registry.Basic
/-!
Selecting a backend: the first of some candidates that the settings enable, or a backend that was
there before. Without an enabled candidate the readings stay in memory.
-/
namespace Telemetry

/-- How readings leave a registry. -/
inductive Exporter where
  /-- They are fetched, with or without help lines. -/
  | scrape (descriptions : Bool)
  | push (publisher : Publisher)
  | none
deriving DecidableEq

/-- A backend in use, with its registry (`MetricsBackend`). -/
structure ActiveBackend where
  backend : Backend
  registry : Registry
  exporter : Exporter

namespace ActiveBackend

/-- Whether readings can be fetched (`MetricsBackend::scrape`). -/
def scrapes (active : ActiveBackend) : Bool :=
  match active.exporter with
  | .scrape _ => true
  | _ => false

/-- What publishes the readings, if anything does (`MetricsBackend::start`). -/
def publisher? (active : ActiveBackend) : Option Publisher :=
  match active.exporter with
  | .push publisher => some publisher
  | _ => none

end ActiveBackend

/-- Whether the settings enable a backend (`BackendKind::is_enabled`). Keeping readings in memory
needs no setting. -/
def Settings.enables (settings : Settings) : Backend → Bool
  | .datadog => settings.datadog.enabled
  | .graphite => settings.graphite.enabled
  | .ganglia => settings.ganglia.enabled
  | .prometheus => settings.prometheus.enabled
  | .simple => true

/-- The exporter of a backend (`build_exporter`). -/
def Settings.exporter (settings : Settings) : Backend → Except Error Exporter
  | .datadog => do
    let _ ← Series.endpoint settings.datadog
    .push <$> Publisher.new .datadog settings.datadog.step
  | .graphite => .push <$> Publisher.new .graphite settings.graphite.step
  | .ganglia => .push <$> Publisher.new .ganglia settings.ganglia.step
  | .prometheus => .ok (.scrape settings.prometheus.descriptions)
  | .simple => .ok .none

/-- What a backend is selected from (`BackendSelector`). -/
structure Selection where
  candidates : List Backend := Backend.priority
  clock : Clock
  /-- A backend that was there before and is taken whatever the settings say. -/
  existing : Option ActiveBackend := none

namespace Selection

/-- The first enabled candidate. -/
def choose (selection : Selection) (settings : Settings) : Backend :=
  (selection.candidates.find? settings.enables).getD .simple

/-- Selects a backend (`BackendSelector::select`); a new one has a registry with the common tags of
the settings. -/
def select (selection : Selection) (settings : Settings) : Except Error ActiveBackend :=
  match selection.existing with
  | some active => .ok active
  | none =>
    let backend := selection.choose settings
    (settings.exporter backend).map fun exporter =>
      ⟨backend, .new selection.clock settings.commonTags, exporter⟩

end Selection
end Telemetry
