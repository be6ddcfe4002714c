import Telemetry.Proofs.Exposition.Samples

/-! The page of a snapshot, read back. A reader who knows the format and nothing else finds the
families that survive, under ascending names, with the samples that were accepted, each whole: no name
and no tag value can make a line or a label that is not there. -/
namespace Telemetry.Exposition
open Reader

/-- A family that a page keeps: a sample was accepted in it, and no summary writes lines under its
name. -/
def Survives (snapshot : Snapshot) (name : String) : Prop :=
  (∃ sample ∈ (accepted snapshot).flatMap samples, sample.family = name) ∧
    ∀ other ∈ (accepted snapshot).flatMap samples, other.type = .summary →
      ¬ ClashesWith other.family name

/-- What a page says under one name: the raw name of the first meter as the help text if that is
wanted, the type that all samples of the family have, and these samples in their order. -/
structure Block.Shows (block : Block) (snapshot : Snapshot) (descriptions : Bool) : Prop where
  help : ∃ first, firstOf? snapshot block.name = some first ∧
    block.help = if descriptions then some first.id.name else none
  type : ∀ sample ∈ samplesOf snapshot block.name, sample.type = block.type
  samples : block.samples = (samplesOf snapshot block.name).map Sample.asRead

/-- What a page says of a snapshot. -/
structure PageOf (snapshot : Snapshot) (descriptions : Bool) (page : List Block) : Prop where
  ascending : (page.map (·.name)).Pairwise (· < ·)
  names : ∀ name, name ∈ page.map (·.name) ↔ Survives snapshot name
  blocks : ∀ block ∈ page, block.Shows snapshot descriptions

theorem mem_samplesOf_iff : sample ∈ samplesOf snapshot name ↔
    sample ∈ (accepted snapshot).flatMap samples ∧ sample.family = name := by
  rw [samplesOf, List.mem_filter, decide_eq_true_eq]

theorem mem_accepted_samples_iff : sample ∈ (accepted snapshot).flatMap samples ↔
    ∃ reading ∈ accepted snapshot, sample ∈ samples reading := List.mem_flatMap

/-- A family is there exactly if some accepted sample is in it. -/
theorem exists_get?_iff (snapshot : Snapshot) (name : String) :
    (∃ family, (Families.ofSnapshot snapshot).get? name = some family) ↔
      ∃ sample ∈ (accepted snapshot).flatMap samples, sample.family = name := by
  constructor
  · rintro ⟨family, found⟩
    have of := familyOf_of_get? found
    obtain ⟨sample, member⟩ := List.exists_mem_of_ne_nil _ of.nonempty
    rw [of.samples] at member
    exact ⟨sample, mem_samplesOf_iff.mp member⟩
  · rintro ⟨sample, shown, rfl⟩
    exact get?_of_accepted shown

private theorem familyOf_of_mem {entry : String × Family}
    (member : entry ∈ (Families.ofSnapshot snapshot).withoutSummaryClashes.entries) :
    FamilyOf snapshot entry.1 entry.2 :=
  familyOf_of_get? ((OrderedMap.get?_eq_some_iff _).mpr ((mem_withoutSummaryClashes _).mp member).1)

/-- A family has a type that one of its samples has, so a summary is one by its samples. -/
theorem FamilyOf.exists_summary {family : Family} (of : FamilyOf snapshot name family)
    (summary : family.type = .summary) :
    ∃ sample ∈ (accepted snapshot).flatMap Exposition.samples,
      sample.type = .summary ∧ sample.family = name := by
  obtain ⟨sample, member⟩ := List.exists_mem_of_ne_nil _ of.nonempty
  have type := of.type sample member
  rw [of.samples, mem_samplesOf_iff] at member
  exact ⟨sample, member.1, type.trans summary, member.2⟩

theorem mem_names_iff (snapshot : Snapshot) (name : String) :
    name ∈ (Families.ofSnapshot snapshot).withoutSummaryClashes.keys ↔ Survives snapshot name := by
  rw [Survives, ← exists_get?_iff]
  simp only [OrderedMap.get?_eq_some_iff, OrderedMap.keys, List.mem_map]
  constructor
  · rintro ⟨entry, member, rfl⟩
    obtain ⟨present, apart⟩ := (mem_withoutSummaryClashes _).mp member
    refine ⟨⟨entry.2, present⟩, fun other shown summary => ?_⟩
    obtain ⟨family, found⟩ := get?_of_accepted shown
    have own : other ∈ family.samples := by
      rw [(familyOf_of_get? found).samples]
      exact mem_samplesOf_iff.mpr ⟨shown, rfl⟩
    refine apart other.family family ((OrderedMap.get?_eq_some_iff _).mp found) ?_
    rw [← (familyOf_of_get? found).type other own]
    exact summary
  · rintro ⟨⟨family, present⟩, apart⟩
    refine ⟨(name, family), (mem_withoutSummaryClashes _).mpr ⟨present, ?_⟩, rfl⟩
    intro summary clashing member type
    obtain ⟨sample, shown, isSummary, rfl⟩ :=
      (familyOf_of_get? ((OrderedMap.get?_eq_some_iff _).mpr member)).exists_summary type
    exact apart sample shown isSummary

private theorem plainFamilies_ofSnapshot (snapshot : Snapshot) :
    PlainFamilies (Families.ofSnapshot snapshot).withoutSummaryClashes := by
  intro entry member
  have of := familyOf_of_mem member
  have each : ∀ sample ∈ entry.2.samples, sample.family = entry.1 ∧
      ∃ reading, SampleOf reading sample := by
    intro sample inside
    rw [of.samples, mem_samplesOf_iff, mem_accepted_samples_iff] at inside
    obtain ⟨⟨reading, -, own⟩, family⟩ := inside
    exact ⟨family, reading, sampleOf_of_mem own⟩
  refine ⟨?_, fun sample inside => ?_⟩
  · obtain ⟨sample, inside⟩ := List.exists_mem_of_ne_nil _ of.nonempty
    obtain ⟨family, reading, own⟩ := each sample inside
    rw [← family]
    exact own.family_chars
  · obtain ⟨-, reading, own⟩ := each sample inside
    exact own.plain

/-- The page of any snapshot can be read, and says what it should. -/
theorem read?_render (snapshot : Snapshot) (descriptions : Bool) :
    ∃ page, read? (render snapshot descriptions) = some page ∧ PageOf snapshot descriptions page := by
  refine ⟨_, read?_text (plainFamilies_ofSnapshot snapshot) descriptions, ?_, fun name => ?_, ?_⟩
  · rw [List.map_map]
    exact (OrderedMap.keys_ascending _).imp compare_lt_iff.mp
  · rw [List.map_map, ← mem_names_iff]
    rfl
  · intro block member
    obtain ⟨entry, own, rfl⟩ := List.mem_map.mp member
    have of := familyOf_of_mem own
    refine ⟨?_, ?_, ?_⟩
    · obtain ⟨first, found, name⟩ := Option.map_eq_some_iff.mp of.help
      exact ⟨first, found, by simp only [Family.asRead, name]⟩
    · exact fun sample kept => of.type sample (of.samples ▸ kept)
    · simp only [Family.asRead, of.samples]

/-- A line that shows a sample of a meter, under a metric name and label names of the format. -/
structure SampleLine.Shows (line : SampleLine) (reading : Reading) : Prop where
  sample : ∃ sample ∈ samples reading, line = sample.asRead
  metric : isMetricName line.metric = true
  labels : LabelsOf reading.id.tags line.labels
  labelNames : ∀ tag ∈ reading.id.tags.entries, tag.1 ≠ "" → isLabelName (labelName tag.1) = true

/-- **A page reads back as what was put on it**, with or without help texts, and whatever characters
names and tag values hold. Its families are the surviving ones, in ascending order of their names; each
has one type, its help text if those are wanted, and exactly its accepted samples. -/
theorem render_reads_back (snapshot : Snapshot) (descriptions : Bool)
    (named : ∀ reading ∈ snapshot, reading.id.name ≠ "") :
    ∃ page, read? (render snapshot descriptions) = some page ∧
      PageOf snapshot descriptions page ∧
      ∀ block ∈ page, isMetricName block.name = true ∧
        ∀ line ∈ block.samples, ∃ reading ∈ accepted snapshot, line.Shows reading := by
  obtain ⟨page, read, of⟩ := read?_render snapshot descriptions
  refine ⟨page, read, of, fun block member => ⟨?_, fun line inside => ?_⟩⟩
  · obtain ⟨⟨sample, shown, family⟩, -⟩ := (of.names block.name).mp (List.mem_map_of_mem member)
    obtain ⟨reading, accepted, own⟩ := mem_accepted_samples_iff.mp shown
    rw [← family]
    exact (sampleOf_of_mem own).isMetricName_family (named reading (mem_of_mem_accepted accepted))
  · rw [(of.blocks block member).samples] at inside
    obtain ⟨sample, kept, rfl⟩ := List.mem_map.mp inside
    obtain ⟨reading, accepted, own⟩ := mem_accepted_samples_iff.mp (mem_samplesOf_iff.mp kept).1
    have nonempty := named reading (mem_of_mem_accepted accepted)
    refine ⟨reading, accepted, ⟨sample, own, rfl⟩, (sampleOf_of_mem own).isMetricName_metric nonempty,
      (sampleOf_of_mem own).labels, fun tag _ key => isLabelName_labelName key⟩

/-- A counter whose name and tag value look like lines of a page. -/
def forgery : Snapshot :=
  [⟨⟨"up\n# TYPE down counter", .ofList [("zone", "a\"\x7d 1\ndown 2\\")]⟩, .counter 3⟩]

theorem forgery_reads_back :
    (∀ reading ∈ forgery, reading.id.name ≠ "") ∧
      ∃ page, read? (render forgery true) = some page ∧ PageOf forgery true page ∧
        ∀ block ∈ page, isMetricName block.name = true ∧
          ∀ line ∈ block.samples, ∃ reading ∈ accepted forgery, line.Shows reading :=
  ⟨by decide, render_reads_back forgery true (by decide)⟩

end Telemetry.Exposition
