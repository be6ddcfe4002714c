import Mathlib.Logic.Basic
import Telemetry.Route.Table

/-! What is done with a table of routes. A route that is added becomes one entry at the end, or none; a
look-up gives the earliest entry that applies, of those for the method of the request before those for
every method. The expressions that a template can ask for may be of any language. -/
namespace Telemetry.Route

variable {ε : Type} [Expressions ε]

/-! ## Adding -/

section Adding
variable {table after : Routes ε} {template : Template ε} {pattern : String}

/-- A template that was read has the pattern, and the segments that its parts read as. -/
theorem template_of_read (read : Template.read pattern = .ok template) :
    template.pattern = pattern ∧
      Template.readSegments pattern (segments pattern.toList) = .ok template.segments := by
  unfold Template.read at read
  split at read
  · cases shape : (Template.readSegments pattern (segments pattern.toList) :
        Except Error (List (Segment ε))) with
    | error error =>
      rw [shape] at read
      cases read
    | ok parts =>
      rw [shape] at read
      cases read
      exact ⟨rfl, rfl⟩
  · cases read

theorem pattern_of_read (read : Template.read pattern = .ok template) :
    template.pattern = pattern :=
  (template_of_read read).1

/-- Adding a route puts its named descriptors at the end, under the template that its pattern reads as;
nothing is put there if no descriptor has a name. -/
theorem add_eq_ok_iff : table.add method pattern timings = .ok after ↔
    ∃ template : Template ε, Template.read pattern = .ok template ∧
      after = table ++ if timings.any Timed.isNamed then
        [⟨method, template, timings.filter Timed.isNamed⟩] else [] := by
  have empty : (timings.filter Timed.isNamed).isEmpty = !timings.any Timed.isNamed := by
    rw [Bool.eq_iff_iff]
    simp
  unfold Routes.add
  cases (Template.read pattern : Except Error (Template ε)) with
  | error error => simp [Except.map]
  | ok template =>
    simp only [Except.map, empty, Except.ok.injEq, exists_eq_left', eq_comm (b := after)]
    cases timings.any Timed.isNamed with
    | false => simp
    | true => rfl

end Adding

/-! ## Look-up -/

/-- The earliest entry of one method, or of those for every method, that is for a target. -/
def Earliest (table : Routes ε) (kind : Option String) (target : Target) (entry : Entry ε) : Prop :=
  ∃ before after, table = before ++ entry :: after ∧ entry.method = kind ∧
    entry.isFor target = true ∧
    ∀ other ∈ before, other.method = kind → other.isFor target = false

section Lookup
variable {table : Routes ε} {kind : Option String} {target : Target} {entry : Entry ε}

theorem Earliest.mem (earliest : Earliest table kind target entry) : entry ∈ table := by
  obtain ⟨before, after, rfl, -, -, -⟩ := earliest
  exact List.mem_append_right _ List.mem_cons_self

theorem Earliest.isFor (earliest : Earliest table kind target entry) : entry.isFor target = true := by
  obtain ⟨-, -, -, -, applies, -⟩ := earliest
  exact applies

/-- The first entry of one method, or of none, for a target. -/
def firstFor (table : Routes ε) (kind : Option String) (target : Target) : Option (Entry ε) :=
  List.find? (fun entry => entry.method = kind && entry.isFor target) table

theorem lookup_eq (table : Routes ε) (method : String) (target : Target) :
    table.lookup method target = (firstFor table (some method) target <|> firstFor table none target) :=
  rfl

theorem firstFor_eq_some_iff :
    firstFor table kind target = some entry ↔ Earliest table kind target entry := by
  rw [firstFor, List.find?_eq_some_iff_append, Earliest]
  simp only [Bool.and_eq_true, decide_eq_true_eq, Bool.not_eq_true', Bool.and_eq_false_iff,
    decide_eq_false_iff_not, ← imp_iff_not_or]
  constructor
  · rintro ⟨⟨own, applies⟩, before, after, shape, passed⟩
    exact ⟨before, after, shape, own, applies, passed⟩
  · rintro ⟨before, after, shape, own, applies, passed⟩
    exact ⟨⟨own, applies⟩, before, after, shape, passed⟩

theorem firstFor_eq_none_iff : firstFor table kind target = none ↔
    ∀ entry ∈ table, entry.method = kind → entry.isFor target = false := by
  simp [firstFor, List.find?_eq_none]

theorem lookup_eq_some_iff {method : String} : table.lookup method target = some entry ↔
    Earliest table (some method) target entry ∨
      (∀ other ∈ table, other.method = some method → other.isFor target = false) ∧
        Earliest table none target entry := by
  rw [lookup_eq, ← firstFor_eq_none_iff, ← firstFor_eq_some_iff, ← firstFor_eq_some_iff]
  cases firstFor table (some method) target <;> simp

theorem lookup_eq_none_iff {method : String} : table.lookup method target = none ↔
    ∀ entry ∈ table, entry.method = some method ∨ entry.method = none →
      entry.isFor target = false := by
  have neither : table.lookup method target = none ↔
      firstFor table (some method) target = none ∧ firstFor table none target = none := by
    rw [lookup_eq]
    cases firstFor table (some method) target <;> simp
  rw [neither, firstFor_eq_none_iff, firstFor_eq_none_iff]
  constructor
  · rintro ⟨specific, general⟩ entry member (own | own)
    · exact specific entry member own
    · exact general entry member own
  · intro absent
    exact ⟨fun entry member own => absent entry member (.inl own),
      fun entry member own => absent entry member (.inr own)⟩

/-- What a look-up finds is in the table and for the target. -/
theorem lookup_spec {method : String} (found : table.lookup method target = some entry) :
    entry ∈ table ∧ entry.isFor target = true := by
  rcases lookup_eq_some_iff.mp found with earliest | ⟨-, earliest⟩
  · exact ⟨earliest.mem, earliest.isFor⟩
  · exact ⟨earliest.mem, earliest.isFor⟩

end Lookup

end Telemetry.Route
