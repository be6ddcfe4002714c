import Telemetry.Proofs.Route.Table

/-! A request may come with the pattern that a router matched, or with nothing but its path. Entries of
one pattern accept the same paths, since each template is what its pattern reads as; so whichever entry
a path finds is also the one that its pattern finds. It does not matter which expressions a template can
ask for. -/
namespace Telemetry.Route

variable {ε : Type} [Expressions ε]

/-- A table that was made by adding routes, each of which was taken. -/
inductive Built : Routes ε → Prop where
  | empty : Built []
  | add {table after : Routes ε} (earlier : Built table)
      (taken : table.add method pattern timings = .ok after) : Built after

/-- Every template of a table is what its pattern reads as. -/
def ReadFromPatterns (table : Routes ε) : Prop :=
  ∀ entry ∈ table, Template.read entry.template.pattern = .ok entry.template

section Adding
variable {table after : Routes ε} {template : Template ε} {a b : Entry ε} {pattern : String}

private theorem add_readFromPatterns (kept : ReadFromPatterns table)
    (taken : table.add method pattern timings = .ok after) : ReadFromPatterns after := by
  obtain ⟨template, read, rfl⟩ := add_eq_ok_iff.mp taken
  intro entry member
  rcases List.mem_append.mp member with old | new
  · exact kept entry old
  · split at new
    · cases List.mem_singleton.mp new
      rwa [pattern_of_read read]
    · cases new

/-- Every table that was built reads its templates from their patterns. -/
theorem Built.readFromPatterns (built : Built table) : ReadFromPatterns table := by
  induction built with
  | empty => exact fun _ member => nomatch member
  | add _ taken ih => exact add_readFromPatterns ih taken

/-- In such a table entries with one pattern have one template. -/
theorem template_eq_of_pattern_eq (read : ReadFromPatterns table) (first : a ∈ table)
    (second : b ∈ table) (same : a.template.pattern = b.template.pattern) :
    a.template = b.template := by
  have own := read a first
  rw [same, read b second, Except.ok.injEq] at own
  exact own.symm

end Adding

/-! ## Look-up -/

section Lookup
variable {table : Routes ε} {kind : Option String} {entry : Entry ε} {wide narrow : Target}

/-- An earliest entry is also the earliest one for a target that fewer entries are for. -/
theorem Earliest.narrower (earliest : Earliest table kind wide entry)
    (applies : entry.isFor narrow = true)
    (fewer : ∀ other ∈ table, other.isFor wide = false → other.isFor narrow = false) :
    Earliest table kind narrow entry := by
  obtain ⟨before, after, rfl, own, -, passed⟩ := earliest
  exact ⟨before, after, rfl, own, applies, fun other member same =>
    fewer other (List.mem_append_left _ member) (passed other member same)⟩

/-- Neither pass of a look-up can stop earlier for a target that fewer entries are for. -/
theorem lookup_of_narrower (found : table.lookup method wide = some entry)
    (applies : entry.isFor narrow = true)
    (fewer : ∀ other ∈ table, other.isFor wide = false → other.isFor narrow = false) :
    table.lookup method narrow = some entry := by
  rcases lookup_eq_some_iff.mp found with earliest | ⟨none, earliest⟩
  · exact lookup_eq_some_iff.mpr (.inl (earliest.narrower applies fewer))
  · have passed (other : Entry ε) (member : other ∈ table) (own : other.method = some method) :
        other.isFor narrow = false :=
      fewer other member (none other member own)
    exact lookup_eq_some_iff.mpr (.inr ⟨passed, earliest.narrower applies fewer⟩)

/-- The pattern of the entry that a path finds finds that entry. -/
theorem lookup_pattern_of_lookup_path (built : Built table)
    (found : table.lookup method (.path path) = some entry) :
    table.lookup method (.pattern entry.template.pattern) = some entry := by
  obtain ⟨own, accepts⟩ := lookup_spec found
  refine lookup_of_narrower found (decide_eq_true rfl) fun other member refuses => ?_
  refine decide_eq_false fun same => ?_
  have template := template_eq_of_pattern_eq built.readFromPatterns member own same
  rw [Entry.isFor, template] at refuses
  rw [Entry.isFor, refuses] at accepts
  cases accepts

end Lookup

end Telemetry.Route
