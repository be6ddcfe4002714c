import Mathlib.Data.List.Forall2
import Telemetry.Proofs.Route.Table
import Telemetry.Route.Patterns

/-! Which entry of a table counts. The entries of a table are the additions that had a named descriptor,
in the order in which they were made. Those for the method of a request come first, wherever they stand,
and then those for every method; within each kind the earliest one that applies counts. -/
namespace Telemetry.Route

variable {ε : Type} [Expressions ε]

/-- A route that is added to a table. -/
structure Addition where
  method : Option String
  pattern : String
  timings : List Timed

/-- Whether an addition has a named descriptor. -/
def Addition.times (addition : Addition) : Bool := addition.timings.any Timed.isNamed

/-- Adds some routes, one after the other, until one is refused. -/
def Routes.addAll (table : Routes ε) : List Addition → Except Error (Routes ε)
  | [] => .ok table
  | addition :: later =>
    match table.add addition.method addition.pattern addition.timings with
    | .ok table => Routes.addAll table later
    | .error error => .error error

/-- What an addition puts into the table: its named descriptors, in their order, under the template that
its pattern reads as. -/
structure Addition.Puts (addition : Addition) (entry : Entry ε) : Prop where
  method : entry.method = addition.method
  template : Template.read addition.pattern = .ok entry.template
  pattern : entry.template.pattern = addition.pattern
  timings : entry.timings = addition.timings.filter Timed.isNamed

section Adding
variable {table after : Routes ε} {addition : Addition} {additions : List Addition}
  {template : Template ε}

/-- The entry that an addition makes of a template. -/
def Addition.entry (addition : Addition) (template : Template ε) : Entry ε :=
  ⟨addition.method, template, addition.timings.filter Timed.isNamed⟩

theorem Addition.puts_iff {entry : Entry ε} : addition.Puts entry ↔
    ∃ template, Template.read addition.pattern = .ok template ∧ entry = addition.entry template := by
  constructor
  · rintro ⟨method, read, -, timings⟩
    refine ⟨entry.template, read, ?_⟩
    rw [Addition.entry, ← method, ← timings]
  · rintro ⟨template, read, rfl⟩
    exact ⟨rfl, read, pattern_of_read read, rfl⟩

/-- A route whose pattern can be read changes the table by one entry, or not at all where no descriptor
has a name. -/
private theorem add_of_read (read : Template.read addition.pattern = .ok template) :
    table.add addition.method addition.pattern addition.timings =
      .ok (table ++ if addition.times then [addition.entry template] else []) :=
  add_eq_ok_iff.mpr ⟨template, read, rfl⟩

/-- Additions are taken if their patterns can be read. The table then grows by one entry for each that has
a named descriptor. -/
theorem addAll_eq_ok_iff : table.addAll additions = .ok after ↔
    (∀ addition ∈ additions, ∃ template : Template ε, Template.read addition.pattern = .ok template) ∧
      ∃ entries : Routes ε, List.Forall₂ Addition.Puts (additions.filter Addition.times) entries ∧
        after = table ++ entries := by
  induction additions generalizing table with
  | nil => simp [Routes.addAll, eq_comm]
  | cons addition later ih =>
    rw [Routes.addAll, List.forall_mem_cons, List.filter_cons]
    cases read : (Template.read addition.pattern : Except Error (Template ε)) with
    | error error => simp [Routes.add, read, Except.map]
    | ok template =>
      have puts {entry : Entry ε} : addition.Puts entry ↔ entry = addition.entry template := by
        rw [Addition.puts_iff]
        simp [read]
      rw [add_of_read read]
      simp only [ih]
      cases addition.times with
      | false => simp
      | true => simp [List.forall₂_cons_left_iff, puts]

/-- Each entry of a table was made by an addition. -/
private theorem made_of_mem {entries : Routes ε} {entry : Entry ε}
    (puts : List.Forall₂ Addition.Puts additions entries) (member : entry ∈ entries) :
    ∃ addition ∈ additions, addition.Puts entry := by
  induction puts with
  | nil => cases member
  | cons first _ ih =>
    rcases List.mem_cons.mp member with rfl | later
    · exact ⟨_, List.mem_cons_self, first⟩
    · obtain ⟨addition, asked, made⟩ := ih later
      exact ⟨addition, List.mem_cons_of_mem _ asked, made⟩

end Adding

/-- **The earliest route of the narrowest kind wins.** A table holds one entry for each addition with a
named descriptor, with its named descriptors in their order. A look-up gives the earliest entry for the
method of the request that applies; if there is none, the earliest one for every method that applies; and
nothing if there is none of these either. What it gives has descriptors, all of them named; and an
addition without a named one could as well not have been made. -/
theorem earliest_route_wins {table : Routes ε} (additions : List Addition)
    (taken : Routes.addAll [] additions = .ok table) :
    List.Forall₂ Addition.Puts (additions.filter Addition.times) table ∧
    (∀ method target entry, table.lookup method target = some entry →
      entry.timings ≠ [] ∧ ∀ timed ∈ entry.timings, timed.isNamed = true) ∧
    (∀ method target entry, table.lookup method target = some entry ↔
      Earliest table (some method) target entry ∨
        (∀ other ∈ table, other.method = some method → other.isFor target = false) ∧
          Earliest table none target entry) ∧
    (∀ method target, table.lookup method target = none ↔
      ∀ entry ∈ table, entry.method = some method ∨ entry.method = none →
        entry.isFor target = false) ∧
    ∀ before addition after, additions = before ++ addition :: after →
      (∀ timed ∈ addition.timings, timed.isNamed = false) →
        Routes.addAll [] (before ++ after) = .ok table := by
  obtain ⟨readable, entries, puts, rfl⟩ := addAll_eq_ok_iff.mp taken
  refine ⟨puts, ?_, fun _ _ _ => lookup_eq_some_iff, fun _ _ => lookup_eq_none_iff, ?_⟩
  · intro method target entry found
    obtain ⟨addition, asked, made⟩ := made_of_mem puts (lookup_spec found).1
    obtain ⟨timed, member, named⟩ := List.any_eq_true.mp (List.mem_filter.mp asked).2
    rw [made.timings]
    exact ⟨List.ne_nil_of_mem (List.mem_filter.mpr ⟨member, named⟩),
      fun timed member => (List.mem_filter.mp member).2⟩
  · rintro before addition after rfl unnamed
    have idle : addition.times = false := List.any_eq_false.mpr fun timed member => by
      rw [unnamed timed member]
      exact Bool.false_ne_true
    refine addAll_eq_ok_iff.mpr ⟨fun other member => readable other ?_, table, ?_, rfl⟩
    · rcases List.mem_append.mp member with earlier | later
      · exact List.mem_append_left _ earlier
      · exact List.mem_append_right _ (List.mem_cons_of_mem _ later)
    · rw [List.filter_append, List.filter_cons, idle] at puts
      rwa [List.filter_append]

/-- A route for every method. -/
def itemRoute : Addition := ⟨none, "/items/\x7bid\x7d", [.named "item"]⟩

/-- The same for one method, without a named descriptor. -/
def untimedItemRoute : Addition := ⟨some "POST", "/items/\x7bid\x7d", [.unnamed, .named " "]⟩

/-- A route for one method that goes for more paths. -/
def postRoute : Addition := ⟨some "POST", "/items/\x7b*rest\x7d", [.unnamed, .named "post"]⟩

/-- What the first and the last of these put into a table. -/
def itemEntries : Table :=
  [itemRoute.entry ⟨itemRoute.pattern, [.literal "items".toList, .capture none]⟩,
    postRoute.entry ⟨postRoute.pattern, [.literal "items".toList, .catchAll]⟩]

private theorem items_added :
    Routes.addAll [] [itemRoute, untimedItemRoute, postRoute] = .ok itemEntries := rfl

/-- The route for `POST` comes last and still wins for its method. -/
theorem later_route_wins_for_its_method :
    Routes.addAll [] [itemRoute, untimedItemRoute, postRoute] = .ok itemEntries ∧
      List.Forall₂ Addition.Puts [itemRoute, postRoute] itemEntries ∧
      Routes.addAll [] [itemRoute, postRoute] = .ok itemEntries ∧
      itemEntries.lookup "POST" (.path "/items/7") = some itemEntries[1] ∧
      itemEntries.lookup "GET" (.path "/items/7") = some itemEntries[0] := by
  obtain ⟨puts, -, found, -, spared⟩ := earliest_route_wins _ items_added
  have silent : ∀ timed ∈ untimedItemRoute.timings, timed.isNamed = false := by decide
  refine ⟨items_added, puts, spared [itemRoute] untimedItemRoute [postRoute] rfl silent, ?_, ?_⟩
  · exact (found _ _ _).mpr (.inl ⟨[itemEntries[0]], [], rfl, rfl, rfl, by decide⟩)
  · exact (found _ _ _).mpr (.inr ⟨by decide, [], [itemEntries[1]], rfl, rfl, rfl, by decide⟩)

end Telemetry.Route
