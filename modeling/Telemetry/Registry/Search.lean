import Telemetry.Registry.Basic
/-!
Searching a registry by name and by some of the tags.
-/
namespace Telemetry

/-- What is looked for: a name, and tags that a meter must have among others. -/
structure Search where
  name : String
  tags : Tags

namespace Search

/-- Every meter of a name (`MeterRegistry::find`). -/
def named (name : String) : Search := ⟨name, .empty⟩

/-- Asks for a tag (`Search::tag`); of two values for one key the later one counts. -/
def tag (search : Search) (key value : String) : Search :=
  { search with tags := search.tags.insert key value }

/-- Asks for all of some tags (`Search::tags`). -/
def allTags (search : Search) (tags : Tags) : Search :=
  { search with tags := search.tags.merge tags }

/-- Whether a meter is looked for (`MeterRegistry::matching`). -/
def accepts (search : Search) (id : MeterId) : Bool :=
  id.name = search.name && id.tags.containsAll search.tags

/-- The meters that are looked for, in ascending order of their ids (`Search::meters`). -/
def meters (search : Search) (registry : Registry) : List (Handle × Meter) :=
  registry.meters.filter fun (_, meter) => search.accepts meter.id

/-- The first of them that has a certain kind. -/
def first? (search : Search) (registry : Registry) (kind : MeterKind) : Option (Handle × Meter) :=
  (search.meters registry).find? fun (_, meter) => meter.kind = kind

end Search
end Telemetry
