import Telemetry.Registry.Basic
/-!
Startup: configurers change what holds for a whole registry, then binders register meters. Each
runs in the order in which it was added, and the first failure ends startup.
-/
namespace Telemetry

/-- Something that changes a state and may fail; what was changed before a failure stays. -/
abbrev Attempt (σ α : Type) := ExceptT Error (StateM σ) α

namespace Attempt

/-- Registers a meter. -/
def register (request : Registry → Except Error (Handle × Registry)) : Attempt Registry Handle :=
  fun registry => match request registry with
    | .ok (handle, registry) => (.ok handle, registry)
    | .error error => (.error error, registry)

/-- Changes the state. -/
def modify {σ : Type} (change : σ → σ) : Attempt σ Unit := fun state => (.ok (), change state)

end Attempt

/-- What is run at startup (`RegistryBootstrap`). -/
structure Startup (σ : Type) where
  configurers : List (Attempt σ Unit) := []
  binders : List (Attempt σ Unit) := []

namespace Startup
variable {σ : Type}

/-- Adds a configurer behind the others (`RegistryBootstrap::configurer`). -/
def configurer (startup : Startup σ) (step : Attempt σ Unit) : Startup σ :=
  { startup with configurers := startup.configurers ++ [step] }

/-- Adds a binder behind the others (`RegistryBootstrap::binder`). -/
def binder (startup : Startup σ) (step : Attempt σ Unit) : Startup σ :=
  { startup with binders := startup.binders ++ [step] }

/-- Puts other configurers in the place of those that were there, or none at all
(`RegistryBootstrap::with_configurers`). -/
def withConfigurers (startup : Startup σ) (steps : Option (List (Attempt σ Unit))) : Startup σ :=
  { startup with configurers := steps.getD [] }

/-- Puts other binders in the place of those that were there, or none at all
(`RegistryBootstrap::with_binders`). -/
def withBinders (startup : Startup σ) (steps : Option (List (Attempt σ Unit))) : Startup σ :=
  { startup with binders := steps.getD [] }

/-- Runs the steps of a phase, the first of which has the given number. -/
def runPhase (phase : StartupPhase) : Nat → List (Attempt σ Unit) → σ → Except Error Unit × σ
  | _, [], state => (.ok (), state)
  | index, step :: steps, state =>
    match step state with
    | (.error error, state) => (.error (.startup phase index error), state)
    | (.ok (), state) => runPhase phase (index + 1) steps state

/-- Runs all configurers, then all binders (`RegistryBootstrap::bind_all`). -/
def run (startup : Startup σ) (state : σ) : Except Error Unit × σ :=
  match runPhase .configure 0 startup.configurers state with
  | (.error error, state) => (.error error, state)
  | (.ok (), state) => runPhase .bind 0 startup.binders state

end Startup

/-- The configurer that adds common tags (`CommonTags::configure_registry`). -/
def commonTags (tags : Tags) : Attempt Registry Unit := .modify (·.addCommonTags tags)

/-- Binds a gauge. -/
def bindGauge (name : String) (tags : Tags) (source : Source) : Attempt Registry Unit := do
  let _ ← Attempt.register (·.gauge name tags source)

/-- Binds how long the process has been running, and since when (`UptimeMetrics::bind_to`). -/
def uptimeMeters (tags : Tags) : Attempt Registry Unit := do
  bindGauge "process_uptime" tags (.probe .uptime)
  bindGauge "process_start_time" tags (.probe .startTime)

/-- Binds how many processors there are (`ProcessorMetrics::bind_to`). -/
def processorMeters (tags : Tags) : Attempt Registry Unit :=
  bindGauge "system_cpu_count" tags (.probe .processors)

/-- The binders of every application that does not opt out (`recommended_binders`). -/
def recommendedBinders : List (Attempt Registry Unit) :=
  [uptimeMeters .empty, processorMeters .empty]

end Telemetry
