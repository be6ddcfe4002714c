import Telemetry.Proofs.Settings.Value

/-! The grammar of durations. It says which texts write so many units of time, and does not say in
which order units are looked for; no text can be taken in two ways, so what is read is what the text
says. -/
namespace Telemetry

/-- The units of durations. -/
inductive DurationUnit where
  | milliseconds
  | seconds
  | minutes
  | hours
deriving DecidableEq, Repr

namespace DurationUnit

/-- How a unit is written. -/
def text : DurationUnit → String
  | milliseconds => "ms"
  | seconds => "s"
  | minutes => "m"
  | hours => "h"

/-- How many milliseconds a unit has. -/
def millis : DurationUnit → Nat
  | milliseconds => 1
  | seconds => 1000
  | minutes => 60000
  | hours => 3600000

/-- The units are those that are tried. -/
theorem mem_durationUnits_iff {name : String} {count : Nat} :
    (name, count) ∈ durationUnits ↔
      ∃ unit : DurationUnit, name = unit.text ∧ count = unit.millis := by
  constructor
  · intro member
    simp only [durationUnits, List.mem_cons, Prod.mk.injEq, List.not_mem_nil, or_false] at member
    obtain ⟨rfl, rfl⟩ | ⟨rfl, rfl⟩ | ⟨rfl, rfl⟩ | ⟨rfl, rfl⟩ := member
    · exact ⟨milliseconds, rfl, rfl⟩
    · exact ⟨seconds, rfl, rfl⟩
    · exact ⟨minutes, rfl, rfl⟩
    · exact ⟨hours, rfl, rfl⟩
  · rintro ⟨unit, rfl, rfl⟩
    cases unit <;> decide

private theorem millis_pos (unit : DurationUnit) : 0 < unit.millis := by
  cases unit <;> decide

end DurationUnit

/-- What may stand behind the number of a duration, and how many milliseconds each of what is
counted has: a unit, perhaps with white space before it, or nothing at all, which counts seconds. -/
inductive CountsIn : List Char → Nat → Prop where
  | none : CountsIn [] 1000
  | unit (blanks : List Char) (unit : DurationUnit) (blank : ∀ c ∈ blanks, Text.isBlank c = true) :
      CountsIn (blanks ++ unit.text.toList) unit.millis

/-- A text, trimmed and in small letters, writes so many units of so many milliseconds each. -/
def SpellsDuration (text : String) (n millis : Nat) : Prop :=
  ∃ number behind, Text.lowerCase (Text.trim text.toList) = number ++ behind ∧
    WritesNumber number n ∧ n < 2 ^ 64 ∧ CountsIn behind millis

private theorem CountsIn.pos {behind : List Char} {millis : Nat} (counts : CountsIn behind millis) :
    0 < millis := by
  cases counts with
  | none => decide
  | unit blanks unit blank => exact unit.millis_pos

theorem writesDuration_iff {text : String} {duration : Duration} :
    WritesDuration text duration ↔ ∃ n millis, SpellsDuration text n millis ∧
      duration = .ofMilliseconds (min (n * millis) (2 ^ 64 - 1)) := by
  constructor
  · rintro ⟨number, blanks, _, n, _, shape, writes, bound, blank,
      ⟨name, isUnit, rfl⟩ | ⟨rfl, rfl, rfl⟩, length⟩
    · obtain ⟨unit, rfl, rfl⟩ := DurationUnit.mem_durationUnits_iff.mp isUnit
      rw [List.append_assoc] at shape
      exact ⟨n, _, ⟨number, _, shape, writes, bound, .unit blanks unit blank⟩, length⟩
    · rw [List.append_nil] at shape
      exact ⟨n, 1000, ⟨number, [], shape, writes, bound, .none⟩, length⟩
  · rintro ⟨n, _, ⟨number, _, shape, writes, bound, counts⟩, length⟩
    cases counts with
    | none =>
      exact ⟨number, [], [], n, 1000, by rw [shape, List.append_nil, List.append_nil],
        writes, bound, List.forall_mem_nil _, .inr ⟨rfl, rfl, rfl⟩, length⟩
    | unit blanks unit blank =>
      have isUnit := DurationUnit.mem_durationUnits_iff.mpr ⟨unit, rfl, rfl⟩
      exact ⟨number, blanks, unit.text.toList, n, unit.millis, by rw [shape, List.append_assoc],
        writes, bound, blank, .inl ⟨_, isUnit, rfl⟩, length⟩

/-- The unit that is split off is the one that stands there, and trimming leaves the number. -/
theorem CountsIn.splitUnit_eq {number behind : List Char} {n millis : Nat}
    (counts : CountsIn behind millis) (writes : WritesNumber number n) :
    ∃ front, splitUnit (number ++ behind) = (front, millis) ∧ Text.trim front = number := by
  cases counts with
  | none =>
    obtain ⟨front, last, rfl, digit⟩ := writes.isDigit_getLast
    rw [List.append_nil]
    exact ⟨_, splitUnit_of_isDigit digit, writes.trimmed.trim_eq⟩
  | unit blanks unit blank =>
    have isUnit := DurationUnit.mem_durationUnits_iff.mpr ⟨unit, rfl, rfl⟩
    rw [← List.append_assoc]
    exact ⟨_, splitUnit_append isUnit (writes.getLast?_append_ne blank),
      writes.trimmed.trim_append blank⟩

/-- No text writes a duration in two ways. -/
theorem SpellsDuration.unique {text : String} {n millis m other : Nat}
    (one : SpellsDuration text n millis) (another : SpellsDuration text m other) :
    m = n ∧ other = millis := by
  obtain ⟨number, behind, shape, writes, bound, counts⟩ := one
  obtain ⟨number', behind', shape', writes', bound', counts'⟩ := another
  obtain ⟨front, split, rfl⟩ := counts.splitUnit_eq writes
  obtain ⟨front', split', rfl⟩ := counts'.splitUnit_eq writes'
  rw [← shape', shape, split] at split'
  cases split'
  have read := readNumber?_eq_some_iff.mpr ⟨writes, bound⟩
  rw [readNumber?_eq_some_iff.mpr ⟨writes', bound'⟩] at read
  exact ⟨Option.some.inj read, rfl⟩

/-- **Durations are read by their grammar.** A text is read exactly if it is, but for white space
around it and the case of its letters, a number below 2^64 in decimal digits, perhaps behind a plus
sign, and then nothing or, perhaps after white space, one of the four units. It says then only one
such number and unit; what is read is the one times the other in milliseconds, cut to the largest
word, and so it is no time at all exactly if the number is zero. -/
theorem durations_are_read_by_their_grammar (text : String) :
    ((∃ duration, Duration.read? text = some duration) ↔
      ∃ n millis, SpellsDuration text n millis) ∧
    ∀ n millis, SpellsDuration text n millis →
      (∀ m other, SpellsDuration text m other → m = n ∧ other = millis) ∧
      Duration.read? text = some (.ofMilliseconds (min (n * millis) (2 ^ 64 - 1))) ∧
      (Duration.read? text = some .zero ↔ n = 0) := by
  refine ⟨?_, fun n millis spells => ?_⟩
  · simp only [Duration.read?_eq_some_iff, writesDuration_iff]
    exact ⟨fun ⟨_, n, millis, spells, _⟩ => ⟨n, millis, spells⟩,
      fun ⟨n, millis, spells⟩ => ⟨_, n, millis, spells, rfl⟩⟩
  · have read : Duration.read? text = some (.ofMilliseconds (min (n * millis) (2 ^ 64 - 1))) :=
      Duration.read?_eq_some_iff.mpr (writesDuration_iff.mpr ⟨n, millis, spells, rfl⟩)
    refine ⟨fun m other another => spells.unique another, read, ?_⟩
    obtain ⟨_, _, -, -, -, counts⟩ := spells
    have unitPos := counts.pos
    rw [read, Option.some.injEq, Duration.ofMilliseconds, Duration.zero, Duration.mk.injEq]
    constructor
    · intro none
      have product : n * millis = 0 := by omega
      exact (Nat.mul_eq_zero.mp product).resolve_right (Nat.ne_of_gt unitPos)
    · rintro rfl
      simp

/-- The largest number of hours is cut to the largest number of milliseconds. -/
theorem largest_hours_are_cut :
    SpellsDuration "\t+18446744073709551615 H\n" (2 ^ 64 - 1) 3600000 ∧
      Duration.read? "\t+18446744073709551615 H\n" = some (.ofMilliseconds (2 ^ 64 - 1)) := by
  have spells : SpellsDuration "\t+18446744073709551615 H\n" (2 ^ 64 - 1) 3600000 := by
    refine ⟨"+18446744073709551615".toList, " h".toList, by decide +kernel, ?_, by decide,
      .unit [' '] .hours (List.forall_mem_singleton.mpr (by decide))⟩
    exact ⟨['+'], "18446744073709551615".toList, by decide +kernel, .inr rfl, by decide +kernel,
      List.all_eq_true.mp (by decide +kernel), by decide +kernel⟩
  exact ⟨spells, ((durations_are_read_by_their_grammar _).2 _ _ spells).2.1⟩

end Telemetry
