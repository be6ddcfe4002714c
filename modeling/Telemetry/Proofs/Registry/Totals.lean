import Telemetry.Proofs.Meter.Timings
import Telemetry.Proofs.Registry.Identity

/-! Totals of what is recorded. A counter comes to the sum of its amounts, and a timer to the number, the
sum and the longest of its durations; a total does not depend on the order. Recording goes on from one
total to the next. -/
namespace Telemetry.Registry

/-! ## Quantities -/

/-- What is recorded at once: an amount by a counter, or a duration by a timer. -/
inductive Quantity where
  | amount (n : UInt64)
  | duration (d : Duration)
deriving DecidableEq

namespace Quantity

def kind : Quantity → MeterKind
  | amount _ => .counter
  | duration _ => .timer

/-- The instrument that it is recorded with first. -/
def fresh : Quantity → Instrument
  | amount _ => .counter 0
  | duration _ => .timer (.new [])

/-- Records it; an instrument of the other kind stays as it is. -/
def change : Quantity → Meter → Meter
  | amount n => Meter.increment n
  | duration d => Meter.record d

def amount? : Quantity → Option Nat
  | amount n => some n.toNat
  | duration _ => none

/-- The nanoseconds of a duration, cut to a word. -/
def nanoseconds? : Quantity → Option Nat
  | amount _ => none
  | duration d => some (min d.nanoseconds (2 ^ 64 - 1))

theorem fresh_kind (quantity : Quantity) : quantity.fresh.kind = quantity.kind := by
  cases quantity <;> rfl

theorem change_keepsIdentity (quantity : Quantity) : KeepsIdentity quantity.change := by
  cases quantity with
  | amount n => exact increment_keepsIdentity n
  | duration d => exact record_keepsIdentity d

end Quantity

private theorem new_nil_quantiles : (Timings.new []).quantiles = [] := by
  simp [Timings.new, normalQuantiles, dropRepeats]

/-! ## Totals -/

/-- The amounts among some quantities. -/
def amounts (quantities : List Quantity) : List Nat := quantities.filterMap Quantity.amount?

/-- The durations among some quantities, in nanoseconds that fit a word. -/
def nanoseconds (quantities : List Quantity) : List Nat :=
  quantities.filterMap Quantity.nanoseconds?

/-- What some quantities come to: the sum of the amounts, or the number, the sum and the longest of the
durations. Sums wrap around as words do. -/
def Totals (quantities : List Quantity) : Value → Prop
  | .counter count => amounts quantities ≠ [] ∧ count = (amounts quantities).sum % 2 ^ 64
  | .timer count total max quantiles =>
    count = (nanoseconds quantities).length % 2 ^ 64 ∧
      total = ⟨(nanoseconds quantities).sum % 2 ^ 64⟩ ∧
      max.nanoseconds ∈ nanoseconds quantities ∧
      (∀ n ∈ nanoseconds quantities, n ≤ max.nanoseconds) ∧ quantiles = []
  | _ => False

/-- Totals do not depend on the order. -/
theorem totals_congr {left right : List Quantity} (reordered : left.Perm right) (value : Value) :
    Totals left value ↔ Totals right value := by
  have sameAmounts : (amounts left).Perm (amounts right) := reordered.filterMap _
  have sameNanoseconds : (nanoseconds left).Perm (nanoseconds right) := reordered.filterMap _
  have nothing : amounts left = [] ↔ amounts right = [] := by
    rw [← List.length_eq_zero_iff, sameAmounts.length_eq, List.length_eq_zero_iff]
  cases value with
  | counter count => rw [Totals, Totals, ne_eq, nothing, sameAmounts.sum_nat]
  | timer count total max quantiles =>
    simp only [Totals, sameNanoseconds.length_eq, sameNanoseconds.sum_nat,
      sameNanoseconds.mem_iff]
  | gauge value => rfl
  | longTaskTimer active duration => rfl

/-! ## Instruments that were recorded with -/

/-- An instrument that some quantities were recorded with, and nothing else. -/
inductive Tally (quantities : List Quantity) : Option Instrument → Prop
  | untouched (nothing : quantities = []) : Tally quantities none
  | counter {count : UInt64} (given : amounts quantities ≠ [])
      (apart : nanoseconds quantities = [])
      (sum : count = .ofNat (amounts quantities).sum) : Tally quantities (some (.counter count))
  | timer {timings : Timings} (apart : amounts quantities = [])
      (number : timings.count = .ofNat (nanoseconds quantities).length)
      (sum : timings.totalNanos = .ofNat (nanoseconds quantities).sum)
      (seen : timings.maxNanos.toNat ∈ nanoseconds quantities)
      (longest : ∀ n ∈ nanoseconds quantities, n ≤ timings.maxNanos.toNat)
      (plain : timings.quantiles = []) : Tally quantities (some (.timer timings))

namespace Tally
variable {quantities : List Quantity} {held : Option Instrument} {instrument : Instrument}

theorem exists_kind (tally : Tally quantities (some instrument)) :
    ∃ quantity ∈ quantities, quantity.kind = instrument.kind := by
  cases tally with
  | counter given apart sum =>
    obtain ⟨n, member⟩ := List.exists_mem_of_ne_nil _ given
    obtain ⟨quantity, isMember, isAmount⟩ := List.mem_filterMap.mp member
    cases quantity with
    | amount n => exact ⟨_, isMember, rfl⟩
    | duration d => cases isAmount
  | timer apart number sum seen longest plain =>
    obtain ⟨quantity, isMember, isDuration⟩ := List.mem_filterMap.mp seen
    cases quantity with
    | amount n => cases isDuration
    | duration d => exact ⟨_, isMember, rfl⟩

/-- A meter shows the totals of what was recorded with it. -/
theorem totals_iff {registry : Registry} {meter : Meter}
    (tally : Tally quantities (some meter.instrument)) (value : Value) :
    Totals quantities value ↔ value = registry.valueOf meter := by
  obtain ⟨id, instrument⟩ := meter
  cases tally with
  | @counter count given apart sum =>
    have shown : registry.valueOf ⟨id, .counter count⟩ =
        .counter ((amounts quantities).sum % 2 ^ 64) := by
      simp only [valueOf, sum, UInt64.toNat_ofNat']
    rw [shown]
    cases value <;> simp [Totals, given, apart]
  | @timer timings apart number sum seen longest plain =>
    have shown : registry.valueOf ⟨id, .timer timings⟩ =
        .timer ((nanoseconds quantities).length % 2 ^ 64)
          ⟨(nanoseconds quantities).sum % 2 ^ 64⟩ ⟨timings.maxNanos.toNat⟩ [] := by
      simp only [valueOf, Timings.total, Timings.max, Timings.quantileValues, number, sum, plain,
        UInt64.toNat_ofNat', List.map_nil]
    rw [shown]
    cases value with
    | timer count total max quantiles =>
      simp only [Totals, Value.timer.injEq]
      constructor
      · rintro ⟨rfl, rfl, member, above, rfl⟩
        have same := Nat.le_antisymm (longest _ member) (above _ seen)
        exact ⟨rfl, rfl, congrArg Duration.mk same, rfl⟩
      · rintro ⟨rfl, rfl, rfl, rfl⟩
        exact ⟨rfl, rfl, seen, longest, rfl⟩
    | _ => simp [Totals, apart]

theorem plain (tally : Tally quantities held) {quantity : Quantity} {timings : Timings}
    (isTimer : held.getD quantity.fresh = .timer timings) : timings.quantiles = [] := by
  cases tally with
  | untouched nothing =>
    cases quantity with
    | amount n => cases isTimer
    | duration d =>
      cases isTimer
      exact new_nil_quantiles
  | counter given apart sum => cases isTimer
  | timer apart number sum seen longest plain =>
    cases isTimer
    exact plain

theorem not_totals (tally : Tally quantities none) (value : Value) : ¬Totals quantities value := by
  cases tally with
  | untouched nothing =>
    subst nothing
    cases value <;> simp [Totals, amounts, nanoseconds]

private theorem record_amount (apart : nanoseconds quantities = []) {count : UInt64}
    (sum : count = .ofNat (amounts quantities).sum) (n : UInt64) :
    Tally (quantities ++ [.amount n]) (some (.counter (count + n))) := by
  have own : amounts (quantities ++ [.amount n]) = amounts quantities ++ [n.toNat] :=
    List.filterMap_append
  have others : nanoseconds (quantities ++ [.amount n]) = nanoseconds quantities ++ [] :=
    List.filterMap_append
  refine .counter ?_ ?_ ?_
  · rw [own]
    exact List.append_ne_nil_of_right_ne_nil _ (List.cons_ne_nil _ _)
  · rw [others, apart, List.append_nil]
  · rw [own, List.sum_append, List.sum_singleton, UInt64.ofNat_add, sum, UInt64.ofNat_toNat]

private theorem record_duration (apart : amounts quantities = []) {timings : Timings}
    (number : timings.count = .ofNat (nanoseconds quantities).length)
    (sum : timings.totalNanos = .ofNat (nanoseconds quantities).sum)
    (seen : timings.maxNanos.toNat ∈ nanoseconds quantities ∨ timings.maxNanos = 0)
    (longest : ∀ n ∈ nanoseconds quantities, n ≤ timings.maxNanos.toNat)
    (plain : timings.quantiles = []) (d : Duration) :
    Tally (quantities ++ [.duration d]) (some (.timer (timings.record d))) := by
  have own : nanoseconds (quantities ++ [.duration d]) =
      nanoseconds quantities ++ [d.clampedWord.toNat] := by
    rw [clampedWord_toNat]
    exact List.filterMap_append
  have others : amounts (quantities ++ [.duration d]) = amounts quantities ++ [] :=
    List.filterMap_append
  have now : (timings.record d).maxNanos.toNat =
      max timings.maxNanos.toNat d.clampedWord.toNat := toNat_max _ _
  refine .timer ?_ ?_ ?_ ?_ ?_ plain
  · rw [others, apart, List.append_nil]
  · rw [own, List.length_append, UInt64.ofNat_add, ← number]
    rfl
  · rw [own, List.sum_append, List.sum_singleton, UInt64.ofNat_add, ← sum, UInt64.ofNat_toNat]
    rfl
  · rw [own, now, List.mem_append, List.mem_singleton]
    rcases Nat.le_total timings.maxNanos.toNat d.clampedWord.toNat with longer | shorter
    · exact .inr (Nat.max_eq_right longer)
    · rw [Nat.max_eq_left shorter]
      refine seen.imp_right fun zero => ?_
      rw [zero] at shorter ⊢
      exact (Nat.le_zero.mp shorter).symm
  · intro n member
    rw [own, List.mem_append, List.mem_singleton] at member
    rw [now]
    rcases member with earlier | rfl
    · exact Nat.le_trans (longest n earlier) (Nat.le_max_left _ _)
    · exact Nat.le_max_right _ _

/-- One more quantity is recorded with the instrument that is there, or with a new one. -/
theorem record (tally : Tally quantities held) {quantity : Quantity}
    (sameKind : ∀ instrument, held = some instrument → instrument.kind = quantity.kind)
    (id : MeterId) :
    Tally (quantities ++ [quantity])
      (some (quantity.change ⟨id, held.getD quantity.fresh⟩).instrument) := by
  cases tally with
  | untouched nothing =>
    subst nothing
    cases quantity with
    | amount n => exact record_amount rfl rfl n
    | duration d =>
      exact record_duration rfl rfl rfl (.inr rfl) (List.forall_mem_nil _) new_nil_quantiles d
  | counter given apart sum =>
    cases quantity with
    | amount n => exact record_amount apart sum n
    | duration d => cases sameKind _ rfl
  | timer apart number sum seen longest plain =>
    cases quantity with
    | amount n => cases sameKind _ rfl
    | duration d => exact record_duration apart number sum (.inl seen) longest plain d

end Tally

end Telemetry.Registry
