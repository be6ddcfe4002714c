import Telemetry.Backend.Kind
import Telemetry.Meter.Id
import Telemetry.Text.Quoted
/-!
Everything that can go wrong, by cause; `Error.message` holds the wording.
-/
namespace Telemetry

/-- The two halves of startup (`BootstrapPhase`). -/
inductive StartupPhase where
  | configure
  | bind
deriving DecidableEq, Repr

/-- What runs in a phase. -/
def StartupPhase.text : StartupPhase → String
  | configure => "configurer"
  | bind => "binder"

/-- A failure of the registry, of settings, of startup or of an export (`MetricsError`). -/
inductive Error where
  /-- The name of a meter is blank. -/
  | invalidName (name : String)
  /-- Another kind of meter is held under the id. -/
  | kindConflict (name : String) (existing requested : MeterKind)
  /-- A required setting is absent. -/
  | missingSetting (key : String)
  /-- A setting has no acceptable value. -/
  | invalidSetting (key explanation : String)
  /-- A step of startup failed. -/
  | startup (phase : StartupPhase) (index : Nat) (cause : Error)
  /-- Readings could not be published. -/
  | publishing (backend : Backend) (explanation : String)
  /-- Logging could not be set up. -/
  | logging (explanation : String)
deriving DecidableEq

namespace Error

/-- A failure in words. -/
def message : Error → String
  | invalidName name => "Invalid meter name: " ++ Text.quoted name
  | kindConflict name existing requested =>
    s!"Meter {name} is already registered as a {existing.text}, not a {requested.text}"
  | missingSetting key => s!"Missing required configuration: {key}"
  | invalidSetting key explanation => s!"Invalid value for {key}: {explanation}"
  | startup phase index cause =>
    s!"Registry bootstrap failed in {phase.text} #{index}: {cause.message}"
  | publishing backend explanation => s!"Export to {backend.name} failed: {explanation}"
  | logging explanation => s!"Observability setup failed: {explanation}"

end Error
end Telemetry
