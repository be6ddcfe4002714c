import Mathlib.Logic.Relation
import Telemetry.Proofs.Exposition.Uniqueness

/-! Why a family is missing from a page. Which families are summaries is asked once, before any of them
gives way. So a family gives way to a summary that may itself give way to another one, and so on; only
the first of them is sure to be on the page. -/
namespace Telemetry.Exposition
open Reader
variable {snapshot : Snapshot} {name summary : String}

instance (summary name : String) : Decidable (ClashesWith summary name) :=
  inferInstanceAs (Decidable (_ ∨ _))

/-- A summary among the families of a snapshot, before any of them gives way. -/
def IsSummary (snapshot : Snapshot) (name : String) : Prop :=
  ∃ family, (Families.ofSnapshot snapshot).get? name = some family ∧ family.type = .summary

/-- A summary that has another family give way, because it writes lines under the name of that one. -/
def Displaces (snapshot : Snapshot) (summary name : String) : Prop :=
  IsSummary snapshot summary ∧ ClashesWith summary name

/-- A summary has a shorter name than its lines. -/
theorem ClashesWith.length_lt (clash : ClashesWith summary name) : summary.length < name.length := by
  have sum : "_sum".length = 4 := by decide
  have count : "_count".length = 6 := by decide
  rcases clash with rfl | rfl <;> rw [String.length_append] <;> omega

/-- What survives is a family that no summary displaces. -/
theorem survives_iff : Survives snapshot name ↔
    (∃ family, (Families.ofSnapshot snapshot).get? name = some family) ∧
      ∀ summary, ¬ Displaces snapshot summary name := by
  rw [← mem_names_iff]
  simp only [OrderedMap.keys, List.mem_map, OrderedMap.get?_eq_some_iff]
  constructor
  · rintro ⟨entry, member, rfl⟩
    obtain ⟨present, apart⟩ := (mem_withoutSummaryClashes _).mp member
    refine ⟨⟨entry.2, present⟩, ?_⟩
    rintro summary ⟨⟨family, found, type⟩, clash⟩
    exact apart summary family ((OrderedMap.get?_eq_some_iff _).mp found) type clash
  · rintro ⟨⟨family, present⟩, apart⟩
    refine ⟨(name, family), (mem_withoutSummaryClashes _).mpr ⟨present, ?_⟩, rfl⟩
    intro summary displacing found type clash
    exact apart summary ⟨⟨displacing, (OrderedMap.get?_eq_some_iff _).mpr found, type⟩, clash⟩

theorem IsSummary.survives_iff (isSummary : IsSummary snapshot summary) :
    Survives snapshot summary ↔ ∀ other, ¬ Displaces snapshot other summary := by
  obtain ⟨family, found, -⟩ := isSummary
  rw [Exposition.survives_iff]
  exact and_iff_right ⟨family, found⟩

/-- The summaries on a page are those that survive. -/
theorem PageOf.summary_iff {descriptions : Bool} {page : List Block}
    (of : PageOf snapshot descriptions page) :
    (∃ block ∈ page, block.type = .summary ∧ block.name = name) ↔
      IsSummary snapshot name ∧ Survives snapshot name := by
  constructor
  · rintro ⟨block, member, type, rfl⟩
    have survives := of.survives member
    obtain ⟨⟨family, found⟩, -⟩ := Exposition.survives_iff.mp survives
    have shape := familyOf_of_get? found
    obtain ⟨sample, own⟩ := List.exists_mem_of_ne_nil _ shape.nonempty
    refine ⟨⟨family, found, ?_⟩, survives⟩
    rw [← shape.type sample own, (of.blocks block member).type sample (shape.samples ▸ own), type]
  · rintro ⟨⟨family, found, type⟩, survives⟩
    obtain ⟨block, member, rfl⟩ := List.mem_map.mp ((of.names name).mpr survives)
    have shape := familyOf_of_get? found
    obtain ⟨sample, own⟩ := List.exists_mem_of_ne_nil _ shape.nonempty
    refine ⟨block, member, ?_, rfl⟩
    rw [← (of.blocks block member).type sample (shape.samples ▸ own), shape.type sample own, type]

/-- Behind a family that gives way there is a summary that survives: if the summary that it gives way to
gives way as well, that one has a shorter name, and it cannot go on like that. -/
private theorem exists_surviving_summary (displaced : Displaces snapshot summary name) :
    ∃ first, (IsSummary snapshot first ∧ Survives snapshot first) ∧
      Relation.TransGen (Displaces snapshot) first name := by
  induction shorter : name.length using Nat.strong_induction_on generalizing name summary with
  | _ length ih =>
    subst shorter
    by_cases stands : Survives snapshot summary
    · exact ⟨summary, ⟨displaced.1, stands⟩, .single displaced⟩
    · rw [displaced.1.survives_iff] at stands
      push Not at stands
      obtain ⟨above, higher⟩ := stands
      obtain ⟨first, survives, path⟩ := ih summary.length displaced.2.length_lt higher rfl
      exact ⟨first, survives, path.tail displaced⟩

/-- **Which families are missing from a page.** A family that comes about when the meters are taken in is
missing exactly if its name is that of a line of some summary that comes about with it. Going from
summary to summary like that, one ends at one that is on the page. The summary next to the family
is on the page itself exactly if no other summary displaces it in turn; so where no summary is named
like the sum or the count of another one, a family is missing only for a line that is really there. -/
theorem missing_families_give_way (snapshot : Snapshot) (descriptions : Bool) :
    ∃ page, read? (render snapshot descriptions) = some page ∧
      ∀ name family, (Families.ofSnapshot snapshot).get? name = some family →
        (name ∉ page.map (·.name) ↔ ∃ summary, Displaces snapshot summary name) ∧
        (name ∉ page.map (·.name) → ∃ block ∈ page, block.type = .summary ∧
          Relation.TransGen (Displaces snapshot) block.name name) ∧
        ((∃ block ∈ page, block.type = .summary ∧ ClashesWith block.name name) ↔
          ∃ summary, Displaces snapshot summary name ∧
            ∀ other, ¬ Displaces snapshot other summary) ∧
        ((∀ summary other, Displaces snapshot summary name → ¬ Displaces snapshot other summary) →
          name ∉ page.map (·.name) →
          ∃ block ∈ page, block.type = .summary ∧ ClashesWith block.name name) := by
  obtain ⟨page, read, of⟩ := read?_render snapshot descriptions
  refine ⟨page, read, fun name family found => ?_⟩
  have missing : name ∉ page.map (·.name) ↔ ∃ summary, Displaces snapshot summary name := by
    rw [of.names, survives_iff, not_and, not_forall_not]
    exact ⟨fun displaced => displaced ⟨family, found⟩, fun displaced _ => displaced⟩
  have next : (∃ block ∈ page, block.type = .summary ∧ ClashesWith block.name name) ↔
      ∃ summary, Displaces snapshot summary name ∧ ∀ other, ¬ Displaces snapshot other summary := by
    constructor
    · rintro ⟨block, member, type, clash⟩
      obtain ⟨isSummary, survives⟩ := of.summary_iff.mp ⟨block, member, type, rfl⟩
      exact ⟨block.name, ⟨isSummary, clash⟩, isSummary.survives_iff.mp survives⟩
    · rintro ⟨summary, ⟨isSummary, clash⟩, free⟩
      obtain ⟨block, member, type, rfl⟩ :=
        of.summary_iff.mpr ⟨isSummary, isSummary.survives_iff.mpr free⟩
      exact ⟨block, member, type, clash⟩
  refine ⟨missing, fun absent => ?_, next, fun apart absent => ?_⟩
  · obtain ⟨summary, displaced⟩ := missing.mp absent
    obtain ⟨first, survives, path⟩ := exists_surviving_summary displaced
    obtain ⟨block, member, type, rfl⟩ := of.summary_iff.mpr survives
    exact ⟨block, member, type, path⟩
  · obtain ⟨summary, displaced⟩ := missing.mp absent
    exact next.mpr ⟨summary, displaced, fun other => apart summary other displaced⟩

/-- Two timers, of which the second becomes the sum of the first, and a counter that becomes the count of
the second. -/
def stacked : Snapshot :=
  [⟨⟨"load", .empty⟩, .timer 1 .zero .zero []⟩, ⟨⟨"load.sum", .empty⟩, .timer 2 .zero .zero []⟩,
   ⟨⟨"load.sum.count", .empty⟩, .counter 5⟩]

private theorem not_clashesWith_load (other : String) : ¬ ClashesWith other "load" := by
  rintro (same | same) <;>
  · have last := congrArg (fun text : String => text.toList.getLast?) same
    simp [String.toList_append] at last

/-- The second timer is missing for the sum of the first. -/
theorem stacked_timer_gives_way :
    ∃ page family, read? (render stacked false) = some page ∧
      (Families.ofSnapshot stacked).get? "load_sum" = some family ∧
      (∀ summary other, Displaces stacked summary "load_sum" → ¬ Displaces stacked other summary) ∧
      "load_sum" ∉ page.map (·.name) ∧
      ∃ block ∈ page, block.type = .summary ∧ ClashesWith block.name "load_sum" := by
  have present : ((Families.ofSnapshot stacked).get? "load_sum").isSome = true := by decide +kernel
  have isSummary : IsSummary stacked "load" := Option.map_eq_some_iff.mp (by decide +kernel)
  have apart : ∀ summary other, Displaces stacked summary "load_sum" →
      ¬ Displaces stacked other summary := by
    rintro summary other ⟨-, clash⟩ ⟨-, above⟩
    obtain rfl : summary = "load" := clash.summary_eq (.inl rfl)
    exact not_clashesWith_load other above
  obtain ⟨family, found⟩ := Option.isSome_iff_exists.mp present
  obtain ⟨page, read, each⟩ := missing_families_give_way stacked false
  obtain ⟨missing, -, -, forALine⟩ := each "load_sum" family found
  have absent := missing.mpr ⟨"load", isSummary, .inl rfl⟩
  exact ⟨page, family, read, found, apart, absent, forALine apart absent⟩

/-- A family can be missing although no line of the page has its name: the counter gives way to the second
timer, which is not there. -/
theorem missing_for_no_line :
    ∃ page, read? (render stacked false) = some page ∧
      ((Families.ofSnapshot stacked).get? "load_sum_count").isSome = true ∧
      "load_sum_count" ∉ page.map (·.name) ∧
      (∀ block ∈ page, block.type = .summary → ¬ ClashesWith block.name "load_sum_count") ∧
      ∀ block ∈ page, ∀ line ∈ block.samples, line.metric ≠ "load_sum_count" := by
  refine ⟨[⟨"load", none, .summary,
        [⟨"load_sum", "load_sum", [], "0"⟩, ⟨"load_count", "load_count", [], "1"⟩]⟩,
      ⟨"load_max", none, .gauge, [⟨"load_max", "load_max", [], "0"⟩]⟩,
      ⟨"load_sum_max", none, .gauge, [⟨"load_sum_max", "load_sum_max", [], "0"⟩]⟩], ?_, ?_⟩
  · decide +kernel
  · decide +kernel

end Telemetry.Exposition
