import Mathlib.Data.List.Nodup
import Telemetry.Proofs.Exposition.Page

/-! No series stands on a page twice. Within a family this is what acceptance asks for, and what one
timer gives by having its quantiles once. Between families a metric could only be shared through the
sum or the count of a summary, and the family that would share it has given way. -/
namespace Telemetry.Exposition
open Reader

/-- The text before a value tells its metric and its labels. -/
theorem eq_of_series {a b : Sample} (first : a.Plain) (second : b.Plain) (same : a.series = b.series) :
    a.metric = b.metric ∧ a.labels = b.labels := by
  have read := readSeries?_series first
  rw [same, readSeries?_series second, Option.some.injEq, Prod.mk.injEq] at read
  exact ⟨read.1.symm, read.2.symm⟩

private theorem append_sum_ne_append_count (first second : String) :
    first ++ "_sum" ≠ second ++ "_count" := by
  intro same
  have chars := congrArg (fun text : String => text.toList.getLast?) same
  simp [String.toList_append] at chars

/-- A name is that of a line of at most one summary. -/
theorem ClashesWith.summary_eq (first : ClashesWith summary name) (second : ClashesWith other name) :
    summary = other := by
  rcases first with rfl | rfl <;> rcases second with same | same
  · exact (String.append_left_inj _).mp same
  · exact absurd same (append_sum_ne_append_count _ _)
  · exact absurd same.symm (append_sum_ne_append_count _ _)
  · exact (String.append_left_inj _).mp same

/-! ## Within a meter -/

section Pairs
variable {a b : Sample}

private theorem together_of_family_ne (apart : a.family ≠ b.family) : Together a b :=
  fun family => absurd family apart

private theorem together_of_metric_ne (first : a.Plain) (second : b.Plain) (type : a.type = b.type)
    (apart : a.metric ≠ b.metric) : Together a b :=
  fun _ => ⟨type, fun same => apart (eq_of_series first second same).1⟩

/-- Different quantiles have different texts, and so their samples have different labels. -/
private theorem together_of_quantile_ne (first : a.Plain) (second : b.Plain) (type : a.type = b.type)
    (firstLabels : a.labels = tags ++ [("quantile", valueText p)])
    (secondLabels : b.labels = tags ++ [("quantile", valueText q)]) (apart : p ≠ q) :
    Together a b := by
  refine fun _ => ⟨type, fun same => apart ?_⟩
  have labels := (eq_of_series first second same).2
  rw [firstLabels, secondLabels] at labels
  have last := List.append_cancel_left labels
  simp only [List.cons.injEq, Prod.mk.injEq, true_and, and_true] at last
  exact valueText_injective last

end Pairs

/-- A timer that has each of its quantiles once. Other meters have none. -/
def QuantilesOnce : Value → Prop
  | .timer _ _ _ quantiles => (quantiles.map (·.1)).Nodup
  | _ => True

/-- A meter's own samples can stand beside one another. -/
private theorem samples_together {reading : Reading} (once : QuantilesOnce reading.value) :
    (samples reading).Pairwise Together := by
  have plain : ∀ sample ∈ samples reading, sample.Plain := fun sample member =>
    (sampleOf_of_mem member).plain
  unfold samples at plain ⊢
  cases shape : reading.value with
  | counter count => exact List.pairwise_singleton _ _
  | gauge value => exact List.pairwise_singleton _ _
  | longTaskTimer active duration =>
    simp only [List.pairwise_cons, List.mem_singleton, List.not_mem_nil, List.Pairwise.nil]
    refine ⟨?_, by simp⟩
    rintro other rfl
    exact together_of_family_ne fun family =>
      absurd ((String.append_right_inj _).mp family) (by decide)
  | timer count total max quantiles =>
    rw [shape] at once plain
    have distinct : quantiles.Pairwise fun a b => a.1 ≠ b.1 := List.pairwise_map.mp once
    have noSuffix (suffix : String) (nonempty : suffix ≠ "") :
        metricName reading.id.name ≠ metricName reading.id.name ++ suffix :=
      (append_ne_self nonempty _).symm
    rw [List.pairwise_append]
    refine ⟨?_, ?_, ?_⟩
    · rw [List.pairwise_map]
      refine distinct.imp_of_mem fun {a b} first second apart => ?_
      have firstPlain := plain _ (List.mem_append_left _ (List.mem_map_of_mem first))
      have secondPlain := plain _ (List.mem_append_left _ (List.mem_map_of_mem second))
      exact together_of_quantile_ne firstPlain secondPlain rfl rfl rfl apart
    · have sumPlain := plain _ (List.mem_append_right _ List.mem_cons_self)
      have countPlain := plain _ (List.mem_append_right _ (List.mem_cons_of_mem _ List.mem_cons_self))
      refine List.Pairwise.cons ?_ (List.Pairwise.cons ?_ (List.pairwise_singleton _ _))
      · intro other member
        simp only [List.mem_cons, List.not_mem_nil, or_false] at member
        rcases member with rfl | rfl
        · exact together_of_metric_ne sumPlain countPlain rfl (append_sum_ne_append_count _ _)
        · exact together_of_family_ne (noSuffix "_max" (by decide))
      · intro other member
        cases List.mem_singleton.mp member
        exact together_of_family_ne (noSuffix "_max" (by decide))
    · intro a quantile b other
      have first := plain a (List.mem_append_left _ quantile)
      have second := plain b (List.mem_append_right _ other)
      obtain ⟨pair, -, rfl⟩ := List.mem_map.mp quantile
      simp only [List.mem_cons, List.not_mem_nil, or_false] at other
      rcases other with rfl | rfl | rfl
      · exact together_of_metric_ne first second rfl (noSuffix "_sum" (by decide))
      · exact together_of_metric_ne first second rfl (noSuffix "_count" (by decide))
      · exact together_of_family_ne (noSuffix "_max" (by decide))

/-- All accepted samples can stand beside one another. -/
theorem accepted_together {snapshot : Snapshot}
    (once : ∀ reading ∈ snapshot, QuantilesOnce reading.value) :
    ((accepted snapshot).flatMap samples).Pairwise Together :=
  pairwise_accepted (fun _ _ together => together) fun reading member =>
    samples_together (once reading member)

/-! ## Between families -/

private theorem exists_sampleOf (shown : sample ∈ (accepted snapshot).flatMap samples) :
    ∃ reading, SampleOf reading sample := by
  obtain ⟨reading, -, own⟩ := mem_accepted_samples_iff.mp shown
  exact ⟨reading, sampleOf_of_mem own⟩

/-- Samples of families that both survive share no series, unless the families are one. -/
theorem family_eq_of_series {a b : Sample}
    (first : a ∈ (accepted snapshot).flatMap samples) (firstStays : Survives snapshot a.family)
    (second : b ∈ (accepted snapshot).flatMap samples) (secondStays : Survives snapshot b.family)
    (same : a.series = b.series) : a.family = b.family := by
  obtain ⟨_, firstOf⟩ := exists_sampleOf first
  obtain ⟨_, secondOf⟩ := exists_sampleOf second
  have metric := (eq_of_series firstOf.plain secondOf.plain same).1
  rcases firstOf.metric with firstOwn | ⟨firstSummary, firstMetric⟩
  · rcases secondOf.metric with secondOwn | ⟨secondSummary, secondMetric⟩
    · rw [← firstOwn, ← secondOwn, metric]
    · -- the first family has the name of a line of the second, and would have given way
      rw [← metric, firstOwn] at secondMetric
      exact absurd secondMetric (firstStays.2 b second secondSummary)
  · rcases secondOf.metric with secondOwn | ⟨-, secondMetric⟩
    · rw [metric, secondOwn] at firstMetric
      exact absurd firstMetric (secondStays.2 a first firstSummary)
    · rw [metric] at firstMetric
      exact firstMetric.summary_eq secondMetric

variable {descriptions : Bool} {page : List Block} {block : Block}

theorem PageOf.survives (of : PageOf snapshot descriptions page) (member : block ∈ page) :
    Survives snapshot block.name := (of.names block.name).mp (List.mem_map_of_mem member)

private theorem Block.Shows.series_eq (shows : block.Shows snapshot descriptions) :
    block.samples.map (·.series) = (samplesOf snapshot block.name).map Sample.series := by
  rw [shows.samples, List.map_map]
  rfl

private theorem Block.Shows.exists_sample (shows : block.Shows snapshot descriptions)
    (member : series ∈ block.samples.map (·.series)) :
    ∃ sample ∈ (accepted snapshot).flatMap Exposition.samples,
      sample.family = block.name ∧ sample.series = series := by
  rw [shows.series_eq] at member
  obtain ⟨sample, own, same⟩ := List.mem_map.mp member
  obtain ⟨shown, family⟩ := mem_samplesOf_iff.mp own
  exact ⟨sample, shown, family, same⟩

private theorem series_nodup_of_block (once : ∀ reading ∈ snapshot, QuantilesOnce reading.value)
    (shows : block.Shows snapshot descriptions) : (block.samples.map (·.series)).Nodup := by
  rw [shows.series_eq, List.Nodup, List.pairwise_map]
  refine ((accepted_together once).filter _).imp_of_mem fun first second together => ?_
  have family := (mem_samplesOf_iff.mp first).2.trans (mem_samplesOf_iff.mp second).2.symm
  exact (together family).2

private theorem PageOf.names_nodup (of : PageOf snapshot descriptions page) :
    (page.map (·.name)).Nodup := by
  refine of.ascending.imp ?_
  rintro a b less rfl
  exact String.lt_irrefl a less

/-- **No series stands twice on a page**, and no family under two headers. Metrics are named as their
families are, the sum and the count of a summary apart; and no family is named as these are. -/
theorem render_without_duplicates (snapshot : Snapshot) (descriptions : Bool)
    (once : ∀ reading ∈ snapshot, QuantilesOnce reading.value) :
    ∃ page, read? (render snapshot descriptions) = some page ∧
      (page.map (·.name)).Nodup ∧
      (page.flatMap fun block => block.samples.map (·.series)).Nodup ∧
      (∀ block ∈ page, ∀ line ∈ block.samples, line.metric = block.name ∨
        block.type = .summary ∧ ClashesWith block.name line.metric) ∧
      ∀ summary ∈ page, summary.type = .summary → ∀ block ∈ page,
        ¬ ClashesWith summary.name block.name := by
  obtain ⟨page, read, of⟩ := read?_render snapshot descriptions
  refine ⟨page, read, of.names_nodup, ?_, fun block member line inside => ?_, ?_⟩
  · rw [List.nodup_flatMap]
    refine ⟨fun block member => series_nodup_of_block once (of.blocks block member), ?_⟩
    refine (List.pairwise_map.mp of.names_nodup).imp_of_mem fun {a b} first second apart => ?_
    intro series inFirst inSecond
    obtain ⟨x, xShown, xFamily, xSeries⟩ := (of.blocks a first).exists_sample inFirst
    obtain ⟨y, yShown, yFamily, ySeries⟩ := (of.blocks b second).exists_sample inSecond
    have family := family_eq_of_series xShown (xFamily ▸ of.survives first) yShown
      (yFamily ▸ of.survives second) (xSeries.trans ySeries.symm)
    exact apart (xFamily.symm.trans (family.trans yFamily))
  · rw [(of.blocks block member).samples] at inside
    obtain ⟨sample, own, rfl⟩ := List.mem_map.mp inside
    obtain ⟨shown, family⟩ := mem_samplesOf_iff.mp own
    obtain ⟨_, sampleOf⟩ := exists_sampleOf shown
    rw [← (of.blocks block member).type sample own, ← family]
    exact sampleOf.metric
  · intro summary present type block member clash
    obtain ⟨⟨sample, shown, family⟩, -⟩ := of.survives present
    have isSummary := (of.blocks summary present).type sample (mem_samplesOf_iff.mpr ⟨shown, family⟩)
    refine (of.survives member).2 sample shown (isSummary.trans type) ?_
    rw [family]
    exact clash

/-- Two timers of one name, and a counter whose name becomes that of their sum. -/
def crowd : Snapshot :=
  [⟨⟨"job", .empty⟩, .timer 2 .zero .zero [(.zero, .zero), (.one, .zero)]⟩,
   ⟨⟨"job", .empty⟩, .timer 1 .zero .zero []⟩,
   ⟨⟨"job sum", .empty⟩, .counter 4⟩]

private theorem crowd_quantilesOnce : ∀ reading ∈ crowd, QuantilesOnce reading.value := by
  have apart : Binary64.zero ≠ Binary64.one := by decide +kernel
  simp [crowd, QuantilesOnce, apart]

theorem crowd_without_duplicates :
    (∀ reading ∈ crowd, QuantilesOnce reading.value) ∧
      ∃ page, read? (render crowd true) = some page ∧
        (page.map (·.name)).Nodup ∧
        (page.flatMap fun block => block.samples.map (·.series)).Nodup ∧
        (∀ block ∈ page, ∀ line ∈ block.samples, line.metric = block.name ∨
          block.type = .summary ∧ ClashesWith block.name line.metric) ∧
        ∀ summary ∈ page, summary.type = .summary → ∀ block ∈ page,
          ¬ ClashesWith summary.name block.name :=
  ⟨crowd_quantilesOnce, render_without_duplicates crowd true crowd_quantilesOnce⟩

end Telemetry.Exposition
