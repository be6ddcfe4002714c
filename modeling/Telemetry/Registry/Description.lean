import Telemetry.Registry.Basic
/-!
Registries and meters in words, for inspection.
-/
namespace Telemetry

/-- Items with commas between, in square brackets. -/
def bracketed (items : List String) : String := "[" ++ ", ".intercalate items ++ "]"

/-- Named fields in braces behind a name. -/
def braced (name : String) (fields : List String) : String :=
  name ++ " \x7b " ++ ", ".intercalate fields ++ " \x7d"

/-- Tags with their keys and values in quotes. -/
def Tags.description (tags : Tags) : String :=
  braced "Tags" ["tags: " ++ bracketed (tags.entries.map fun (key, value) =>
    braced "Tag" ["key: " ++ Text.quoted key, "value: " ++ Text.quoted value])]

/-- An id with its name in quotes. -/
def MeterId.description (id : MeterId) : String :=
  braced "MeterId" ["name: " ++ Text.quoted id.name, "tags: " ++ id.tags.description]

/-- A counter with its count, or a gauge, whose source is not shown. -/
def Meter.description? (meter : Meter) : Option String :=
  match meter.instrument with
  | .counter count =>
    some (braced "Counter" ["id: " ++ meter.id.description, "value: " ++ toString count])
  | .gauge _ => some (braced "Gauge" ["id: " ++ meter.id.description, ".."])
  | _ => none

/-- The common tags of a registry and how many meters it has. -/
def Registry.description (registry : Registry) : String :=
  braced "MeterRegistry"
    ["common_tags: " ++ registry.commonTags.description, "meters: " ++ toString registry.size]

end Telemetry
