import Telemetry.Startup.Basic
/-!
Startups described by data: entries that add common tags, bind standard meters, or write to a log,
register meters, run another startup and fail.
-/
namespace Telemetry.Startup

/-- A meter to be registered. -/
structure Registration where
  kind : MeterKind
  name : String
  tags : Tags := .empty
  quantiles : List Binary64 := []
  /-- What a gauge shows. -/
  value : Binary64 := .zero

/-- Registers a meter; a counter is counted on by one. -/
def Registration.apply (registration : Registration) (registry : Registry) :
    Except Error (Handle × Registry) :=
  match registration.kind with
  | .counter =>
    (registry.counter registration.name registration.tags).map fun (handle, registry) =>
      (handle, registry.increment handle 1)
  | .gauge => registry.gauge registration.name registration.tags (.constant registration.value)
  | .timer => registry.timer registration.name registration.tags registration.quantiles
  | .longTaskTimer => registry.longTaskTimer registration.name registration.tags

/-- A registry and the log that entries write to. -/
structure Logged where
  registry : Registry
  log : List String := []

/-- An entry of a startup. -/
inductive Entry where
  | commonTags (tags : Tags)
  | uptime (tags : Tags)
  | processors (tags : Tags)
  /-- Writes to the log, registers meters, runs the configurers and binders of another startup, and
  fails if it is told to. -/
  | steps (log : Option String) (registrations : List Registration)
    (configurers binders : List Entry) (failure : Option Error)

/-- Runs something that knows the registry only. -/
def withRegistry {α : Type} (attempt : Attempt Registry α) : Attempt Logged α := fun state =>
  let (result, registry) := attempt state.registry
  (result, { state with registry })

/-- Registers some meters, up to the first that cannot be. -/
def registerAll : List Registration → Attempt Logged Unit
  | [] => pure ()
  | registration :: rest => do
    let _ ← withRegistry (.register registration.apply)
    registerAll rest

mutual
/-- What an entry does. -/
def Entry.attempt : Entry → Attempt Logged Unit
  | .commonTags tags => withRegistry (Telemetry.commonTags tags)
  | .uptime tags => withRegistry (uptimeMeters tags)
  | .processors tags => withRegistry (processorMeters tags)
  | .steps log registrations configurers binders failure => do
    Attempt.modify fun state => { state with log := state.log ++ log.toList }
    registerAll registrations
    fun state => Startup.run ⟨attempts configurers, attempts binders⟩ state
    match failure with
    | some error => throw error
    | none => pure ()

/-- What some entries do. -/
def attempts : List Entry → List (Attempt Logged Unit)
  | [] => []
  | entry :: rest => entry.attempt :: attempts rest
end

/-- The startup of some entries. -/
def ofEntries (configurers binders : List Entry) : Startup Logged :=
  ⟨attempts configurers, attempts binders⟩

end Telemetry.Startup
