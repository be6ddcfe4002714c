import Mathlib.Data.List.Forall2
import Telemetry.Reading

/-! The numbers that a snapshot is flattened to, meter by meter. -/
namespace Telemetry

/-- The numbers of a snapshot in their order, each with the meter that it is of. -/
def numbers (snapshot : Snapshot) : List (MeterId × Measurement) :=
  snapshot.flatMap fun reading => reading.measurements.map (reading.id, ·)

/-- What is made of each number of each meter is made of the numbers of the snapshot. -/
theorem flatMap_measurements {α : Type} (make : MeterId → Measurement → α) (snapshot : Snapshot) :
    (snapshot.flatMap fun reading => reading.measurements.map (make reading.id)) =
      (numbers snapshot).map fun number => make number.1 number.2 := by
  rw [numbers, List.map_flatMap]
  simp only [List.map_map]
  rfl

end Telemetry
