import Telemetry.Registry.Basic
/-!
Building a registry. Common tags are gathered before there is one, each call over those before it.
-/
namespace Telemetry

/-- A registry that is about to be built (`MeterRegistryBuilder`). -/
structure RegistryBuilder where
  clock : Option Clock := none
  commonTags : Tags := .empty

namespace RegistryBuilder

/-- Sets the clock (`MeterRegistryBuilder::clock`). -/
def withClock (builder : RegistryBuilder) (clock : Clock) : RegistryBuilder :=
  { builder with clock := some clock }

/-- Puts more tags over the common ones (`MeterRegistryBuilder::common_tags`). -/
def withCommonTags (builder : RegistryBuilder) (tags : Tags) : RegistryBuilder :=
  { builder with commonTags := builder.commonTags.merge tags }

/-- The registry (`MeterRegistryBuilder::build`). If no clock was set, it goes by that of the
system. -/
def build (builder : RegistryBuilder) (system : Clock) : Registry :=
  .new (builder.clock.getD system) builder.commonTags

end RegistryBuilder
end Telemetry
