import Telemetry.Tags
/-!
What a meter is known by, and the kinds of meter.
-/
namespace Telemetry

/-- A meter is known by its name and its tags. -/
structure MeterId where
  name : String
  tags : Tags
deriving DecidableEq

namespace MeterId

/-- The name with the tags behind it (`MeterId::fmt`). -/
def text (id : MeterId) : String := id.name ++ id.tags.text

/-- The value of one tag (`MeterId::tag`). -/
def tag? (id : MeterId) (key : String) : Option String := id.tags.get? key

/-- Meters are ordered by name, then by tags. -/
instance : Ord MeterId := ⟨compareLex (compareOn name) (compareOn tags)⟩

instance : Std.TransOrd MeterId :=
  inferInstanceAs (Std.TransCmp (compareLex (compareOn name) (compareOn tags)))

instance : Std.LawfulEqOrd MeterId where
  compare_self := Std.ReflCmp.compare_self
  eq_of_compare {a b} same := by
    change compareLex (compareOn name) (compareOn tags) a b = .eq at same
    simp only [compareLex, Ordering.then_eq_eq, compareOn] at same
    cases a; cases b
    simp only [MeterId.mk.injEq]
    exact ⟨Std.LawfulEqOrd.eq_of_compare same.1, Std.LawfulEqOrd.eq_of_compare same.2⟩

end MeterId

/-- The kinds of meter. -/
inductive MeterKind where
  | counter
  | gauge
  | timer
  | longTaskTimer
deriving DecidableEq, Repr

/-- A kind in words (`MeterKind::fmt`). -/
def MeterKind.text : MeterKind → String
  | counter => "counter"
  | gauge => "gauge"
  | timer => "timer"
  | longTaskTimer => "long task timer"

end Telemetry
