import Telemetry.Proofs.Decimal.Positional
import Telemetry.Proofs.Meter.Ranks
import Telemetry.Proofs.Registry.Registration
import Telemetry.Proofs.Registry.Timers

/-! The gauges of a timer's quantiles. Nothing that happens to a registry gives a gauge another source, and
a timer only ever takes operations in; so a gauge that was put there for a quantile shows that quantile
for as long as it is found. -/
namespace Telemetry

namespace Timings
variable {timings : Timings} {q : Binary64} {value : Duration}

/-- Among values of ascending quantiles, looking for one finds its own. -/
private theorem find?_of_ascending {values : List (Binary64 × Duration)}
    (ascending : values.Pairwise fun a b => Binary64.Below a.1 b.1) (member : (q, value) ∈ values)
    (number : q.sameValue q = true) : values.find? (·.1.sameValue q) = some (q, value) := by
  induction values with
  | nil => cases member
  | cons head rest ih =>
    obtain ⟨headBelow, restAscending⟩ := List.pairwise_cons.mp ascending
    rcases List.mem_cons.mp member with rfl | behind
    · exact List.find?_cons_of_pos number
    · have apart : head.1.sameValue q = false :=
        Bool.eq_false_of_not_eq_true (headBelow _ behind).not_sameValue
      rw [List.find?_cons_of_neg (by simp [apart])]
      exact ih restAscending behind

/-- A timer shows the value of each quantile that it keeps. -/
private theorem quantileSeconds_eq (recorded : timings.Recorded)
    (member : (q, value) ∈ timings.quantileValues) : timings.quantileSeconds q = value.seconds := by
  obtain ⟨asked, kept⟩ := recorded.quantiles_eq
  have ascending : timings.quantileValues.Pairwise fun a b => Binary64.Below a.1 b.1 := by
    rw [← List.pairwise_map (f := Prod.fst), map_fst_quantileValues, kept]
    exact normalQuantiles_ascending asked
  have own : q ∈ normalQuantiles asked := kept ▸ (mem_quantileValues.mp member).1
  obtain ⟨_, x, -, known, -⟩ := Binary64.le_iff.mp (mem_normalQuantiles own).2.1
  have number : q.sameValue q = true := Binary64.sameValue_iff.mpr ⟨x, known, known⟩
  rw [quantileSeconds, find?_of_ascending ascending member number]

end Timings

namespace Registry
variable {registry after : Registry} {handle timer : Handle} {timings : Timings} {id : MeterId}
  {name : String} {tags : Tags} {q : Binary64}

theorem mem_quantilesOf_iff : q ∈ registry.quantilesOf timer ↔
    ∃ timings, registry.timingsOf? timer = some timings ∧ q ∈ timings.quantiles := by
  rw [quantilesOf, ← timingsOf?]
  cases registry.timingsOf? timer <;> simp

/-! ## Gauges while a registry is used -/

/-- Nothing that is done to a registry changes a gauge. -/
private theorem onMeter_gauge (operation : Operation) (now : UInt64) (handle : Handle)
    (source : Source) : operation.onMeter now handle ⟨id, .gauge source⟩ = ⟨id, .gauge source⟩ := by
  cases operation <;> simp [Operation.onMeter, Meter.increment, Meter.record, Meter.mapTasks]

private theorem gauge_run {source : Source} (held : registry.meter? handle = some ⟨id, .gauge source⟩)
    (operations : List Operation) :
    (registry.run operations).meter? handle = some ⟨id, .gauge source⟩ := by
  induction operations generalizing registry with
  | nil => exact held
  | cons operation rest ih =>
    apply ih
    rw [meter?_perform held, onMeter_gauge]

/-- The gauge of a quantile shows its value. -/
theorem valueOf_quantileGauge (recorded : timings.Recorded)
    (held : registry.timingsOf? timer = some timings) {value : Duration}
    (member : (q, value) ∈ timings.quantileValues) :
    registry.valueOf ⟨id, .gauge (.quantile timer q)⟩ = .gauge value.seconds := by
  have shown : registry.sourceValue (.quantile timer q) = timings.quantileSeconds q := by
    simp only [sourceValue]
    rw [← timingsOf?, held]
  rw [← Timings.quantileSeconds_eq recorded member, ← shown]
  rfl

/-- Quantiles that are not the same have gauges with different ids. -/
theorem quantileGaugeId_injective {p : Binary64}
    (same : registry.quantileGaugeId name tags p = registry.quantileGaugeId name tags q) :
    p = q := by
  have text (q : Binary64) : (registry.quantileGaugeId name tags q).tags.get? "quantile" =
      some (Decimal.plain.write q) := by
    have own : (quantileGaugeTags tags q).get? "quantile" = some (Decimal.plain.write q) :=
      OrderedMap.get?_insert_self _ _ _
    rw [quantileGaugeId, effectiveId, Tags.get?_merge, own, Option.some_or]
  have texts : some (Decimal.plain.write p) = some (Decimal.plain.write q) := by
    rw [← text p, ← text q, same]
  exact Decimal.write_injective Decimal.plain_positional (Option.some.inj texts)

/-- No gauge of quantiles has the id of its timer. -/
theorem quantileGaugeId_ne : registry.quantileGaugeId name tags q ≠ registry.effectiveId name tags := by
  intro same
  have names : name ++ ".quantiles" = name := congrArg MeterId.name same
  have lengths := congrArg String.length names
  have written : 0 < ".quantiles".length := by decide
  rw [String.length_append] at lengths
  omega

/-- The quantiles that a timer is asked for with take effect if the timer is new. -/
theorem timingsOf?_of_new {asked : List Binary64}
    (free : registry.find? (registry.effectiveId name tags) = none)
    (granted : registry.timer name tags asked = .ok (timer, after)) :
    after.timingsOf? timer = some (.new asked) := by
  obtain ⟨registered, first, rfl⟩ := timer_cases granted
  rcases register_cases first with ⟨-, added⟩ | ⟨meter, found, -, -⟩
  · have held := registry.add_meter (registry.effectiveId name tags) (.timer (.new asked))
    rw [added] at held
    exact timingsOf?_eq_some_iff.mpr ⟨_, (publishQuantiles_extend registered _).meter? held, rfl⟩
  · rw [free] at found
    cases found

/-- **Quantile gauges follow their timer.** After a timer was asked for and got, whatever happened before
and whatever quantiles it was asked for with, each quantile that it keeps has a meter under the id of its
gauge. What was there before is as it was. Where nothing was, it is a gauge, and for as long as nobody
clears the registry it shows the value of the quantile in seconds, as it then is: by then the timer has
taken in what was recorded on it since, and nothing else. -/
theorem quantile_gauges_follow_their_timer (clock : Clock) (commonTags : Tags)
    (history : List Operation) (name : String) (tags : Tags) (asked : List Binary64)
    (granted : ((Registry.new clock commonTags).run history).timer name tags asked =
      .ok (timer, after)) :
    let registry := (Registry.new clock commonTags).run history
    ∀ q ∈ after.quantilesOf timer,
      let id := registry.effectiveId (name ++ ".quantiles")
        (tags.insert "quantile" (Decimal.plain.write q))
      (∃ held meter, after.find? id = some (held, meter)) ∧
      (∀ held meter, registry.find? id = some (held, meter) →
        after.find? id = some (held, meter)) ∧
      (registry.find? id = none →
        ∃ timings, (after.meter? timer).bind Meter.timings? = some timings ∧
        ∀ during : List Operation, .clear ∉ during →
          let later := after.run during
          let current := timings.recordAll (during.flatMap (Operation.recordedOn timer))
          (later.meter? timer).bind Meter.timings? = some current ∧
          ∃ held gauge value, later.find? id = some (held, gauge) ∧
            (∀ other, (q, other) ∈ current.quantileValues ↔ other = value) ∧
            later.valueOf gauge = .gauge value.seconds) := by
  intro registry q member id
  have indexed : WellIndexed registry := history_wellIndexed clock commonTags history
  have outcome : Granted registry name tags .timer timer after := timer_granted indexed granted
  have afterIndexed : WellIndexed after := (timer_grows indexed granted).indexed
  obtain ⟨held, entry⟩ := outcome.published q member
  refine ⟨?_, ?_, ?_⟩
  · obtain ⟨meter, heldMeter, -⟩ := afterIndexed id held entry
    exact ⟨held, meter, (find?_eq_some_iff _).mpr ⟨entry, heldMeter⟩⟩
  · intro taken meter found
    obtain ⟨takenEntry, takenMeter⟩ := (find?_eq_some_iff _).mp found
    exact (find?_eq_some_iff _).mpr ⟨outcome.entries id taken takenEntry,
      outcome.meters taken meter takenMeter⟩
  · intro free
    have absent := absent_of_find?_eq_none indexed free
    obtain ⟨p, -, sameId, shown⟩ : ShowsQuantile registry after timer name tags
        (after.quantilesOf timer) id held := by
      rcases outcome.added id held absent entry with ⟨own, -⟩ | added
      · exact absurd own quantileGaugeId_ne
      · exact added
    obtain rfl : q = p := quantileGaugeId_injective sameId
    obtain ⟨timings, heldTimings, kept⟩ := mem_quantilesOf_iff.mp member
    have recorded : timings.Recorded := by
      have performed : after = registry.perform (.timer name tags asked) := by
        rw [perform, granted, afterAsking]
      have all := perform_timersRecorded
        (history_timersRecorded clock commonTags history) (.timer name tags asked)
      rw [← performed] at all
      exact all timer timings heldTimings
    refine ⟨timings, heldTimings, ?_⟩
    intro during unclear later current
    have now : later.timingsOf? timer = some current := timingsOf?_run heldTimings during
    have nowRecorded : current.Recorded := recorded.recordAll _
    have nowKept : q ∈ current.quantiles := by
      rw [Timings.quantiles_recordAll]
      exact kept
    refine ⟨now, held, ⟨id, .gauge (.quantile timer q)⟩,
      ⟨(nearestRank current.recent.mergeSort q).toNat⟩, ?_, ?_, ?_⟩
    · exact (find?_eq_some_iff _).mpr
        ⟨(run_grows afterIndexed unclear).entries id held entry, gauge_run shown during⟩
    · intro other
      rw [Timings.mem_quantileValues, and_iff_right nowKept]
    · exact valueOf_quantileGauge nowRecorded now (Timings.mem_quantileValues.mpr ⟨nowKept, rfl⟩)

theorem exists_of_handle {answer : Except Error (Handle × Registry)}
    (handed : answer.toOption.map Prod.fst = some handle) : ∃ after, answer = .ok (handle, after) := by
  cases answer with
  | error error => cases handed
  | ok answer =>
    obtain ⟨other, after⟩ := answer
    obtain rfl : other = handle := Option.some.inj handed
    exact ⟨after, rfl⟩

/-- A gauge that was free shows the longest of the operations that were recorded since, in seconds. -/
theorem quantile_gauge_after_a_record :
    let registry := (Registry.new ⟨0, 0⟩ .empty).run []
    let during : List Operation :=
      [.addCommonTags (.ofList [("env", "test")]), .record ⟨0⟩ ⟨2000000000⟩]
    let id := registry.effectiveId ("latency" ++ ".quantiles")
      (OrderedMap.insert .empty "quantile" (Decimal.plain.write .one))
    id = ⟨"latency.quantiles", .ofList [("quantile", "1")]⟩ ∧
    ∃ after, registry.timer "latency" .empty [.one] = .ok (⟨0⟩, after) ∧
      .one ∈ after.quantilesOf ⟨0⟩ ∧ registry.find? id = none ∧ .clear ∉ during ∧
      ∃ held gauge, (after.run during).find? id = some (held, gauge) ∧
        (after.run during).valueOf gauge = .gauge (.ofNat 2) := by
  intro registry during id
  have spelled : id = ⟨"latency.quantiles", .ofList [("quantile", "1")]⟩ := by decide +kernel
  have free : registry.find? id = none := by decide +kernel
  have unclear : .clear ∉ during := by decide
  have kept : (Timings.new [.one]).quantiles = [.one] := by
    have inside : (Binary64.zero.le .one && Binary64.one.le .one) = true := by decide +kernel
    simp [Timings.new, normalQuantiles, dropRepeats, inside]
  obtain ⟨after, asked⟩ : ∃ after, registry.timer "latency" .empty [.one] = .ok (⟨0⟩, after) :=
    exists_of_handle (by decide +kernel)
  have held : after.timingsOf? ⟨0⟩ = some (.new [.one]) := timingsOf?_of_new (by decide +kernel) asked
  have member : .one ∈ after.quantilesOf ⟨0⟩ := by
    refine mem_quantilesOf_iff.mpr ⟨_, held, ?_⟩
    rw [kept]
    exact List.mem_singleton_self _
  obtain ⟨-, -, follows⟩ := quantile_gauges_follow_their_timer ⟨0, 0⟩ .empty [] "latency" .empty
    [.one] asked .one member
  obtain ⟨timings, now, later⟩ := follows free
  obtain rfl : .new [.one] = timings := Option.some.inj (held.symm.trans now)
  obtain ⟨-, gaugeHandle, gauge, value, found, shown, reading⟩ := later during unclear
  have largest : (⟨2000000000⟩ : Duration) = value := by
    apply (shown _).mp
    refine Timings.mem_quantileValues.mpr ⟨?_, ?_⟩
    · rw [Timings.quantiles_recordAll, kept]
      exact List.mem_singleton_self _
    · change _ = Duration.mk (nearestRank (List.mergeSort [2000000000]) .one).toNat
      rw [List.mergeSort_singleton]
      decide +kernel
  have seconds : (⟨2000000000⟩ : Duration).seconds = .ofNat 2 := by decide +kernel
  rw [← largest, seconds] at reading
  exact ⟨spelled, after, asked, member, free, unclear, gaugeHandle, gauge, found, reading⟩

end Registry
end Telemetry
