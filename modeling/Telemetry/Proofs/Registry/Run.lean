import Telemetry.Registry.Basic

/-! Runs of a registry. An operation is whatever an application does to a registry: it asks for a
meter, changes the common tags, clears the registry, uses a handle that it kept, or lets the clock
and the probes move. A run takes operations one after the other; one that fails changes nothing. -/
namespace Telemetry.Registry

/-- What is done to a registry. Handles and samples are arbitrary, so that they may be kept from
any earlier moment, and also from before a clear. -/
inductive Operation where
  | counter (name : String) (tags : Tags)
  | gauge (name : String) (tags : Tags) (source : Source)
  | timer (name : String) (tags : Tags) (quantiles : List Binary64)
  | longTaskTimer (name : String) (tags : Tags)
  | addCommonTags (tags : Tags)
  | clear
  | increment (counter : Handle) (amount : UInt64)
  | record (timer : Handle) (duration : Duration)
  | startTask (timer : Handle)
  | stopTask (sample : Sample)
  | advance (amount : Duration)
  | setProbe (probe : Probe) (value : Binary64)
deriving DecidableEq

/-- The registry after somebody asked for a meter. -/
def afterAsking (registry : Registry) : Except Error (Handle × Registry) → Registry
  | .ok (_, after) => after
  | .error _ => registry

/-- Does one thing. -/
def perform (registry : Registry) : Operation → Registry
  | .counter name tags => registry.afterAsking (registry.counter name tags)
  | .gauge name tags source => registry.afterAsking (registry.gauge name tags source)
  | .timer name tags quantiles => registry.afterAsking (registry.timer name tags quantiles)
  | .longTaskTimer name tags => registry.afterAsking (registry.longTaskTimer name tags)
  | .addCommonTags tags => registry.addCommonTags tags
  | .clear => registry.clear
  | .increment counter amount => registry.increment counter amount
  | .record timer duration => registry.record timer duration
  | .startTask timer => ((registry.startTask timer).map (·.2)).getD registry
  | .stopTask sample => registry.stopTask sample
  | .advance amount => registry.advance amount
  | .setProbe probe value => registry.setProbe probe value

/-- Does some things, one after the other. -/
def run (registry : Registry) (operations : List Operation) : Registry :=
  operations.foldl perform registry

theorem run_append (registry : Registry) (first second : List Operation) :
    registry.run (first ++ second) = (registry.run first).run second :=
  List.foldl_append

/-- A meter that somebody asked for and got: the effective id at that moment, the kind that was
asked for, and the handle that came back. -/
structure Registration where
  id : MeterId
  kind : MeterKind
  handle : Handle
deriving DecidableEq

/-- The registration that an answer amounts to; a refusal amounts to none. -/
def granted (registry : Registry) (name : String) (tags : Tags) (kind : MeterKind) :
    Except Error (Handle × Registry) → List Registration
  | .ok (handle, _) => [⟨registry.effectiveId name tags, kind, handle⟩]
  | .error _ => []

/-- The registrations of the gauges that show the quantiles of a timer. -/
def quantileRegistrations (timer : Handle) (name : String) (tags : Tags) (registry : Registry) :
    List Binary64 → List Registration
  | [] => []
  | q :: rest =>
    registry.granted (quantileGaugeName name) (quantileGaugeTags tags q) .gauge
        (registry.gauge (quantileGaugeName name) (quantileGaugeTags tags q) (.quantile timer q)) ++
      quantileRegistrations timer name tags (publishQuantile timer name tags registry q) rest

/-- The registrations within one operation. A timer brings those of its quantile gauges. -/
def registrationsOf (registry : Registry) : Operation → List Registration
  | .counter name tags => registry.granted name tags .counter (registry.counter name tags)
  | .gauge name tags source =>
    registry.granted name tags .gauge (registry.gauge name tags source)
  | .timer name tags quantiles =>
    registry.granted name tags .timer (registry.timer name tags quantiles) ++
      match registry.register name tags (.timer (.new quantiles)) with
      | .ok (timer, after) => quantileRegistrations timer name tags after (after.quantilesOf timer)
      | .error _ => []
  | .longTaskTimer name tags =>
    registry.granted name tags .longTaskTimer (registry.longTaskTimer name tags)
  | _ => []

/-- The registrations of a run, in the order in which they were made. -/
def registrations (registry : Registry) : List Operation → List Registration
  | [] => []
  | operation :: rest =>
    registry.registrationsOf operation ++ (registry.perform operation).registrations rest

end Telemetry.Registry
