import Telemetry.Proofs.Registry.Enumeration
import Telemetry.Registry.Search

/-! Searches. A search goes through the index in whatever order that has, keeps the meters that it is
about and sorts them by their ids. What comes out is the part of all meters that has the name and the
tags that were asked for, in the order of all meters. -/
namespace Telemetry

/-! ## The order of ids -/

/-- Tags come in the order of their keys, and of their values where the keys are the same. -/
def Tags.PairBefore (a b : String × String) : Prop := a.1 < b.1 ∨ a.1 = b.1 ∧ a.2 < b.2

/-- Ids come in the order of their names, and of their lists of tags where the names are the same. -/
def MeterId.Before (a b : MeterId) : Prop :=
  a.name < b.name ∨ a.name = b.name ∧ List.Lex Tags.PairBefore a.tags.entries b.tags.entries

theorem Tags.comparePair_lt_iff {a b : String × String} :
    comparePair a b = .lt ↔ PairBefore a b := by
  simp only [comparePair, compareLex, compareOn, Ordering.then_eq_lt, compare_lt_iff,
    Std.LawfulEqOrd.compare_eq_iff_eq, PairBefore]

theorem Tags.compareLex_lt_iff {left right : List (String × String)} :
    List.compareLex comparePair left right = .lt ↔ List.Lex PairBefore left right := by
  induction left generalizing right with
  | nil =>
    cases right with
    | nil => simp [List.compareLex]
    | cons pair rest => simp [List.compareLex]
  | cons pair rest ih =>
    cases right with
    | nil => simp [List.compareLex]
    | cons other more =>
      rw [List.compareLex_cons_cons, Ordering.then_eq_lt, comparePair_lt_iff, ih,
        Std.LawfulEqCmp.compare_eq_iff_eq, List.cons_lex_cons_iff]

theorem MeterId.compare_lt_iff {a b : MeterId} : compare a b = .lt ↔ a.Before b := by
  change compareLex (compareOn name) (compareOn tags) a b = .lt ↔ _
  simp only [compareLex, compareOn, Ordering.then_eq_lt, Telemetry.compare_lt_iff,
    Std.LawfulEqOrd.compare_eq_iff_eq, Before]
  exact or_congr_right (and_congr_right fun _ => Tags.compareLex_lt_iff)

/-! ## What a search asks for -/

/-- What a search can be narrowed by. -/
inductive Filter where
  | tag (key value : String)
  | all (tags : Tags)

namespace Filter

/-- The value that a filter asks a key to have. -/
def value? : Filter → String → Option String
  | .tag own value, key => if key = own then some value else none
  | .all tags, key => tags.get? key

/-- The value that some filters ask a key to have: a later one counts before an earlier one. -/
def wanted : List Filter → String → Option String
  | [], _ => none
  | filter :: later, key => (wanted later key).or (filter.value? key)

end Filter

namespace Search
variable {search : Search} {registry : Registry} {id : MeterId} {kind : MeterKind}

/-- A search with one more filter. -/
def narrow (search : Search) : Filter → Search
  | .tag key value => search.tag key value
  | .all tags => search.allTags tags

private theorem get?_narrow (search : Search) (filter : Filter) (key : String) :
    (search.narrow filter).tags.get? key = (filter.value? key).or (search.tags.get? key) := by
  cases filter with
  | tag own value =>
    change (search.tags.insert own value).get? key = _
    rw [OrderedMap.get?_insert, Filter.value?]
    by_cases same : key = own
    · simp [same]
    · simp [same]
  | all tags => exact Tags.get?_merge search.tags tags key

private theorem get?_narrowed (search : Search) (filters : List Filter) (key : String) :
    (filters.foldl narrow search).tags.get? key =
      (Filter.wanted filters key).or (search.tags.get? key) := by
  induction filters generalizing search with
  | nil => rfl
  | cons filter later ih =>
    rw [List.foldl_cons, ih, get?_narrow, Filter.wanted, Option.or_assoc]

private theorem name_narrowed (search : Search) (filters : List Filter) :
    (filters.foldl narrow search).name = search.name := by
  induction filters generalizing search with
  | nil => rfl
  | cons filter later ih =>
    rw [List.foldl_cons, ih]
    cases filter <;> rfl

/-- What is looked for has the name and, among others, each tag. -/
theorem accepts_iff : search.accepts id = true ↔ id.name = search.name ∧
    ∀ key value, search.tags.get? key = some value → (key, value) ∈ id.tags.entries := by
  simp only [accepts, Tags.containsAll, Bool.and_eq_true, decide_eq_true_eq, List.all_eq_true,
    OrderedMap.get?_eq_some_iff, Prod.forall]

/-! ## Going through the index -/

/-- Whether a meter is looked for, where its tags are looked up by halving
(`Tags::contains_all`). -/
def acceptsByHalving (search : Search) (id : MeterId) : Bool :=
  id.name = search.name &&
    search.tags.entries.all fun pair => OrderedMap.bisect pair.1 id.tags.entries = some pair.2

/-- Goes through the meters behind some handles, keeps those that are looked for, and sorts them by
their ids (`MeterRegistry::matching`). -/
def metersFrom (search : Search) (registry : Registry) (listed : List Handle) :
    List (Handle × Meter) :=
  ((registry.behind listed).filter fun (_, meter) => search.acceptsByHalving meter.id).mergeSort
    fun a b => (compare a.2.id b.2.id).isLE

private theorem acceptsByHalving_eq (search : Search) (id : MeterId) :
    search.acceptsByHalving id = search.accepts id := by
  simp only [acceptsByHalving, accepts, Tags.containsAll, OrderedMap.bisect_entries]

private theorem meters_ascending (indexed : Registry.WellIndexed registry) :
    (search.meters registry).Pairwise fun a b => compare a.2.id b.2.id = .lt :=
  (Registry.meters_ascending indexed).filter _

/-- However the index is gone through, a search comes out the same. -/
theorem metersFrom_eq (indexed : Registry.WellIndexed registry)
    (enumerated : registry.Enumerates listed) :
    search.metersFrom registry listed = search.meters registry := by
  simp only [metersFrom, acceptsByHalving_eq]
  exact Registry.mergeSort_eq_of_ascending ((enumerated.filterMap _).filter _)
    (meters_ascending indexed)

/-! ## The first of a kind -/

theorem first?_eq_some_iff {first : Handle × Meter} : search.first? registry kind = some first ↔
    ∃ before after, search.meters registry = before ++ first :: after ∧ first.2.kind = kind ∧
      ∀ other ∈ before, other.2.kind ≠ kind := by
  rw [first?, List.find?_eq_some_iff_append]
  simp only [decide_eq_true_eq, Bool.not_eq_true', decide_eq_false_iff_not]
  constructor
  · rintro ⟨own, before, after, shape, passed⟩
    exact ⟨before, after, shape, own, passed⟩
  · rintro ⟨before, after, shape, own, passed⟩
    exact ⟨own, before, after, shape, passed⟩

theorem first?_eq_none_iff : search.first? registry kind = none ↔
    ∀ other ∈ search.meters registry, other.2.kind ≠ kind := by
  simp only [first?, List.find?_eq_none, decide_eq_true_eq, ne_eq]

end Search

namespace Registry

/-- **A search filters the whole registry.** In every state that a registry can get to, what a search
finds are those of all meters that have the name and, for each key, the value that was last asked for.
They come in the order of all meters, which ascends strictly by the ids, however the index is gone
through; and of each kind the first one is handed out, if there is one. -/
theorem searches_filter_the_registry (clock : Clock) (commonTags : Tags) (history : List Operation)
    (name : String) (filters : List Filter) :
    let registry := (Registry.new clock commonTags).run history
    let search := filters.foldl Search.narrow (Search.named name)
    let found := search.meters registry
    (∀ handle meter, (handle, meter) ∈ registry.meters ↔
      registry.find? meter.id = some (handle, meter)) ∧
    found.Sublist registry.meters ∧
    (∀ one, one ∈ found ↔ one ∈ registry.meters ∧ one.2.id.name = name ∧
      ∀ key value, Filter.wanted filters key = some value →
        (key, value) ∈ one.2.id.tags.entries) ∧
    (registry.meters.Pairwise fun a b => a.2.id.Before b.2.id) ∧
    (found.Pairwise fun a b => a.2.id.Before b.2.id) ∧
    (∀ listed, registry.Enumerates listed →
      registry.metersFrom listed = registry.meters ∧ search.metersFrom registry listed = found) ∧
    ∀ kind,
      (∀ first, search.first? registry kind = some first ↔
        ∃ before after, found = before ++ first :: after ∧ first.2.kind = kind ∧
          ∀ other ∈ before, other.2.kind ≠ kind) ∧
      (search.first? registry kind = none ↔ ∀ other ∈ found, other.2.kind ≠ kind) := by
  intro registry search found
  have indexed : WellIndexed registry := history_wellIndexed clock commonTags history
  refine ⟨fun _ _ => mem_meters_iff indexed, List.filter_sublist, ?_, ?_, ?_, ?_, ?_⟩
  · intro one
    change one ∈ registry.meters.filter _ ↔ _
    rw [List.mem_filter, Search.accepts_iff, Search.name_narrowed]
    simp only [search, Search.get?_narrowed, Search.named, OrderedMap.get?_empty, Option.or_none]
  · exact (meters_ascending indexed).imp MeterId.compare_lt_iff.mp
  · exact (Search.meters_ascending indexed).imp MeterId.compare_lt_iff.mp
  · exact fun _ enumerated => ⟨metersFrom_eq indexed enumerated, Search.metersFrom_eq indexed enumerated⟩
  · exact fun kind => ⟨fun _ => Search.first?_eq_some_iff, Search.first?_eq_none_iff⟩

/-- Two long task timers and a counter with one name. A search that asks for one status and then for another one finds
what has the later one; going through the index backwards, it finds the same. -/
theorem search_by_replaced_status :
    let running (status : String) : Operation :=
      .longTaskTimer "requests" (.ofList [("status", status), ("uri", "/")])
    let history := [running "200", running "404", .counter "requests" (.ofList [("status", "404")])]
    let registry := (Registry.new ⟨0, 0⟩ .empty).run history
    let filters : List Filter := [.tag "status" "200", .all (.ofList [("status", "404")])]
    let search := filters.foldl Search.narrow (Search.named "requests")
    (search.meters registry).map (·.1) = [⟨2⟩, ⟨1⟩] ∧
      registry.Enumerates registry.index.values.reverse ∧
      search.metersFrom registry registry.index.values.reverse = search.meters registry := by
  intro running history registry filters search
  have backwards : registry.Enumerates registry.index.values.reverse := List.reverse_perm _
  obtain ⟨-, -, -, -, -, enumerated, -⟩ :=
    searches_filter_the_registry ⟨0, 0⟩ .empty history "requests" filters
  exact ⟨by decide +kernel, backwards, (enumerated _ backwards).2⟩

end Registry
end Telemetry
