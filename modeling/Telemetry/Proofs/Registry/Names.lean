import Mathlib.Data.List.Nodup
import Telemetry.Export.Series
import Telemetry.Proofs.Binary64.Thousandths
import Telemetry.Proofs.Decimal.Numeral
import Telemetry.Proofs.Path.Levels
import Telemetry.Proofs.Registry.Enumeration
import Telemetry.Proofs.Registry.QuantileGauges

/-! What the numbers of one meter are called. Their names differ as their last parts do, and only quantiles
can share one: it tells a quantile's nearest thousandth. The quantiles of a timer are different numbers,
but they can be closer than that. -/
namespace Telemetry
open Binary64
variable {p q : Binary64} {a b : Statistic} {id : MeterId} {reading : Reading}

/-! ## Last parts -/

namespace Statistic

theorem suffix_quantile_eq_iff :
    (quantile p).suffix = (quantile q).suffix ↔ p.thousandths = q.thousandths := by
  constructor
  · intro same
    have texts : Decimal.digitText p.thousandths = Decimal.digitText q.thousandths := by
      simpa [suffix, thousandths] using congrArg String.toList same
    have values := congrArg Decimal.digitsValue texts
    rwa [Decimal.digitsValue_digitText, Decimal.digitsValue_digitText] at values
  · intro same
    unfold thousandths at same
    rw [suffix, suffix, same]

/-- The last part tells each statistic that is no quantile, and of a quantile its nearest thousandth. -/
theorem suffix_eq_iff : a.suffix = b.suffix ↔
    a = b ∨ ∃ p q, a = quantile p ∧ b = quantile q ∧ p.thousandths = q.thousandths := by
  constructor
  · intro same
    cases a <;> cases b
    case quantile.quantile p q => exact .inr ⟨p, q, rfl, rfl, suffix_quantile_eq_iff.mp same⟩
    -- The other last parts are fixed words, and none of them begins with the letter of the quantiles.
    all_goals first
      | exact .inl rfl
      | simp [suffix, String.ext_iff] at same
  · rintro (rfl | ⟨p, q, rfl, rfl, same⟩)
    · rfl
    · exact suffix_quantile_eq_iff.mpr same

end Statistic

/-- Hierarchical names of one meter differ as their last parts do. -/
theorem Path.name_eq_iff_suffix :
    Path.name id a = Path.name id b ↔ a.suffix = b.suffix := by
  rw [Path.name_eq_iff, Path.levels_eq_iff rfl]
  constructor
  · exact Path.SamePlace.suffix
  · intro same
    exact ⟨rfl, rfl, (Path.flatMap_tagLevels_eq_iff _ _).mp rfl, same⟩

/-- So do the metrics of its series. -/
theorem Series.metric_eq_iff {hostTag : String} {wallMillis : Int} {m n : Measurement} :
    (Series.ofMeasurement hostTag wallMillis id m).metric =
        (Series.ofMeasurement hostTag wallMillis id n).metric ↔
      m.statistic.suffix = n.statistic.suffix := by
  constructor
  · intro same
    apply String.toList_injective
    simpa [Series.ofMeasurement] using congrArg String.toList same
  · intro same
    rw [Series.ofMeasurement, Series.ofMeasurement, same]

/-! ## The numbers of one meter -/

private theorem nodup_map_congr {α β γ : Type} {f : α → β} {g : α → γ} {l : List α}
    (same : ∀ a b, f a = f b ↔ g a = g b) : (l.map f).Nodup ↔ (l.map g).Nodup := by
  simp only [List.Nodup, List.pairwise_map, ne_eq, same]

/-- The quantiles that a reading has values for. -/
def Reading.quantiles (reading : Reading) : List Binary64 :=
  match reading.value with
  | .timer _ _ _ quantiles => quantiles.map Prod.fst
  | _ => []

/-- The numbers of a reading are of some statistics that are all different, and then of its quantiles. -/
private theorem Reading.exists_fixed (reading : Reading) : ∃ fixed : List Statistic,
    reading.measurements.map (·.statistic) = fixed ++ reading.quantiles.map .quantile ∧
      fixed.Nodup ∧ ∀ q, .quantile q ∉ fixed := by
  obtain ⟨id, value⟩ := reading
  cases value with
  | counter => exact ⟨[.count], rfl, by decide, by simp⟩
  | gauge => exact ⟨[.value], rfl, by decide, by simp⟩
  | timer => exact ⟨[.count, .total, .max, .mean], by simp [measurements, quantiles], by decide, by simp⟩
  | longTaskTimer => exact ⟨[.active, .duration], rfl, by decide, by simp⟩

/-- The last parts of a meter's numbers are different exactly if the thousandths of its quantiles are. -/
theorem Reading.nodup_suffixes_iff (reading : Reading) :
    (reading.measurements.map (·.statistic.suffix)).Nodup ↔
      (reading.quantiles.map thousandths).Nodup := by
  obtain ⟨fixed, statistics, different, noQuantile⟩ := reading.exists_fixed
  have suffixes : reading.measurements.map (·.statistic.suffix) =
      fixed.map Statistic.suffix ++ reading.quantiles.map (Statistic.suffix ∘ .quantile) := by
    rw [← List.map_map, ← List.map_append, ← statistics, List.map_map]
    rfl
  have fixedSuffixes : (fixed.map Statistic.suffix).Nodup := by
    refine List.Nodup.map_on (fun a own b _ same => ?_) different
    rcases Statistic.suffix_eq_iff.mp same with rfl | ⟨p, -, rfl, -⟩
    · rfl
    · exact absurd own (noQuantile p)
  have apart : ∀ a ∈ fixed.map Statistic.suffix,
      ∀ b ∈ reading.quantiles.map (Statistic.suffix ∘ .quantile), a ≠ b := by
    intro _ first _ second same
    obtain ⟨a, own, rfl⟩ := List.mem_map.mp first
    obtain ⟨q, -, rfl⟩ := List.mem_map.mp second
    rcases Statistic.suffix_eq_iff.mp same with rfl | ⟨p, -, rfl, -⟩
    · exact noQuantile q own
    · exact noQuantile p own
  rw [suffixes, List.nodup_append, and_iff_right fixedSuffixes, and_iff_left apart]
  exact nodup_map_congr fun _ _ => Statistic.suffix_quantile_eq_iff

theorem Reading.nodup_paths_iff (reading : Reading) :
    (reading.measurements.map fun m => Path.name reading.id m.statistic).Nodup ↔
      (reading.quantiles.map thousandths).Nodup := by
  rw [← reading.nodup_suffixes_iff]
  exact nodup_map_congr fun _ _ => Path.name_eq_iff_suffix

theorem Reading.nodup_metrics_iff (reading : Reading) (hostTag : String) (wallMillis : Int) :
    (reading.measurements.map fun m =>
        (Series.ofMeasurement hostTag wallMillis reading.id m).metric).Nodup ↔
      (reading.quantiles.map thousandths).Nodup := by
  rw [← reading.nodup_suffixes_iff]
  exact nodup_map_congr fun _ _ => Series.metric_eq_iff

/-! ## Thousandths of quantiles -/

private theorem nodup_thousandths_of_apart {asked : List Binary64}
    (apart : (normalQuantiles asked).Pairwise ThousandthBelow) :
    ((normalQuantiles asked).map thousandths).Nodup := by
  apply List.pairwise_map.mpr
  refine apart.imp_of_mem fun first second step => ?_
  obtain ⟨-, least, -⟩ := mem_normalQuantiles first
  obtain ⟨-, -, most⟩ := mem_normalQuantiles second
  exact Nat.ne_of_lt (step.thousandths_lt least most)

private theorem nodup_thousandths_of_written {asked : List Binary64}
    (written : ∀ q ∈ normalQuantiles asked, ∃ k ≤ 1000, q = ofNat k / ofNat 1000) :
    ((normalQuantiles asked).map thousandths).Nodup := by
  have different : (normalQuantiles asked).Nodup := (normalQuantiles_ascending asked).imp Below.ne
  refine List.Nodup.map_on (fun p first q second same => ?_) different
  obtain ⟨k, few, left⟩ := written p first
  obtain ⟨l, fewToo, right⟩ := written q second
  rw [left, right, thousandths_ofNat_div few, thousandths_ofNat_div fewToo] at same
  rw [left, right, same]

/-! ## The meters of a registry -/

namespace Registry
variable {registry after : Registry} {timer : Handle} {name : String} {tags : Tags}
  {asked : List Binary64}

/-- What a meter shows of quantiles is what a timer keeps of those that it was asked for with. -/
private theorem exists_quantiles (recorded : registry.TimersRecorded) (indexed : WellIndexed registry)
    (member : reading ∈ registry.snapshot) : ∃ asked, reading.quantiles = normalQuantiles asked := by
  obtain ⟨handle, meter, found, shown⟩ := (mem_snapshot_iff indexed).mp member
  obtain ⟨-, held⟩ := (find?_eq_some_iff _).mp found
  have none : [] = normalQuantiles [] := (normalQuantiles_eq_self (by simp) .nil).symm
  obtain ⟨id, instrument⟩ := meter
  rw [Reading.quantiles, shown]
  cases instrument with
  | timer timings =>
    have own : timings.Recorded := recorded handle timings (timingsOf?_eq_some_iff.mpr ⟨_, held, rfl⟩)
    obtain ⟨asked, kept⟩ := own.quantiles_eq
    exact ⟨asked, (Timings.map_fst_quantileValues timings).trans kept⟩
  | _ => exact ⟨[], none⟩

/-- A new timer shows the quantiles that it was asked for with. -/
private theorem exists_reading_of_new (indexed : WellIndexed registry)
    (free : registry.find? (registry.effectiveId name tags) = none)
    (granted : registry.timer name tags asked = .ok (timer, after)) :
    ∃ reading ∈ after.snapshot, reading.quantiles = normalQuantiles asked := by
  obtain ⟨meter, found, -, -⟩ := (timer_granted indexed granted).found
  obtain ⟨-, held⟩ := (find?_eq_some_iff _).mp found
  obtain ⟨other, heldToo, isNew⟩ := timingsOf?_eq_some_iff.mp (timingsOf?_of_new free granted)
  rw [held] at heldToo
  cases heldToo
  refine ⟨⟨registry.effectiveId name tags, after.valueOf meter⟩, ?_, ?_⟩
  · exact (mem_snapshot_iff (timer_grows indexed granted).indexed).mpr ⟨timer, meter, found, rfl⟩
  · obtain ⟨id, instrument⟩ := meter
    cases instrument with
    | timer timings =>
      obtain rfl : timings = .new asked := Option.some.inj isNew
      exact Timings.map_fst_quantileValues _
    | _ => cases isNew

/-- What a registry shows that was asked for one timer. -/
theorem exists_reading_of_latency (inside : ∀ q ∈ asked, (Binary64.zero.le q && q.le .one) = true)
    (ascending : asked.Pairwise Below) :
    ∃ reading ∈ ((Registry.new ⟨0, 0⟩ .empty).run [.timer "latency" .empty asked]).snapshot,
      reading.quantiles = asked := by
  obtain ⟨after, granted⟩ : ∃ after,
      (Registry.new ⟨0, 0⟩ .empty).timer "latency" .empty asked = .ok (⟨0⟩, after) :=
    exists_of_handle rfl
  have performed : (Registry.new ⟨0, 0⟩ .empty).run [.timer "latency" .empty asked] = after := by
    rw [run, List.foldl_cons, List.foldl_nil, perform, granted, afterAsking]
  have shown := exists_reading_of_new (new_wellIndexed _ _) (by decide +kernel) granted
  rwa [normalQuantiles_eq_self inside ascending, ← performed] at shown

/-- **The numbers of a meter are named apart exactly if the thousandths of its quantiles are.** Whatever
happened to a registry, the quantiles of what a meter shows are different numbers in order; but its
hierarchical names, and the metrics of its series, are different exactly if no two quantiles have one
nearest thousandth. So they are if the quantiles are a thousandth apart, or if each of them was written
with three digits behind the point at most. -/
theorem names_differ_as_thousandths_do (clock : Clock) (commonTags : Tags) (history : List Operation)
    (hostTag : String) (wallMillis : Int) :
    let registry := (Registry.new clock commonTags).run history
    ∀ reading ∈ registry.snapshot,
      let paths := reading.measurements.map fun m => Path.name reading.id m.statistic
      let metrics := reading.measurements.map fun m =>
        (Series.ofMeasurement hostTag wallMillis reading.id m).metric
      reading.quantiles.Pairwise Below ∧
      (paths.Nodup ↔ (reading.quantiles.map thousandths).Nodup) ∧
      (metrics.Nodup ↔ (reading.quantiles.map thousandths).Nodup) ∧
      (reading.quantiles.Pairwise ThousandthBelow → paths.Nodup ∧ metrics.Nodup) ∧
      ((∀ q ∈ reading.quantiles, ∃ k ≤ 1000, q = .ofNat k / .ofNat 1000) →
        paths.Nodup ∧ metrics.Nodup) := by
  intro registry reading member paths metrics
  obtain ⟨asked, kept⟩ := exists_quantiles (history_timersRecorded clock commonTags history)
    (history_wellIndexed clock commonTags history) member
  have path := reading.nodup_paths_iff
  have metric := reading.nodup_metrics_iff hostTag wallMillis
  have both (different : (reading.quantiles.map thousandths).Nodup) :
      paths.Nodup ∧ metrics.Nodup := ⟨path.mpr different, metric.mpr different⟩
  refine ⟨?_, path, metric, fun apart => both ?_, fun written => both ?_⟩
  · rw [kept]
    exact normalQuantiles_ascending asked
  · rw [kept] at apart ⊢
    exact nodup_thousandths_of_apart apart
  · rw [kept] at written ⊢
    exact nodup_thousandths_of_written written

/-- A half and the next thousandth have names of their own. -/
theorem thousandths_have_names_of_their_own :
    let registry := (Registry.new ⟨0, 0⟩ .empty).run
      [.timer "latency" .empty [.ofNat 500 / .ofNat 1000, .ofNat 501 / .ofNat 1000]]
    ∃ reading ∈ registry.snapshot,
      reading.quantiles = [.ofNat 500 / .ofNat 1000, .ofNat 501 / .ofNat 1000] ∧
      (reading.measurements.map fun m => Path.name reading.id m.statistic).Nodup ∧
      (reading.measurements.map fun m =>
        (Series.ofMeasurement "host" 0 reading.id m).metric).Nodup := by
  intro registry
  have below : Below (.ofNat 500 / .ofNat 1000) (.ofNat 501 / .ofNat 1000) :=
    below_of_le (by decide +kernel) (by decide +kernel)
  obtain ⟨reading, member, shown⟩ :=
    exists_reading_of_latency (by decide +kernel) (List.pairwise_pair.mpr below)
  have written : ∀ q ∈ reading.quantiles, ∃ k ≤ 1000, q = .ofNat k / .ofNat 1000 := by
    rw [shown]
    intro q own
    rcases List.mem_pair.mp own with same | same
    · exact ⟨500, by decide, same⟩
    · exact ⟨501, by decide, same⟩
  have names := names_differ_as_thousandths_do ⟨0, 0⟩ .empty _ "host" 0 reading member
  exact ⟨reading, member, shown, names.2.2.2.2 written⟩

/-- A half and what is a tenth of a thousandth above it are two quantiles of one timer, and their values
have one name. -/
theorem close_quantiles_share_a_name :
    let registry := (Registry.new ⟨0, 0⟩ .empty).run
      [.timer "latency" .empty [.ofNat 5000 / .ofNat 10000, .ofNat 5001 / .ofNat 10000]]
    ∃ reading ∈ registry.snapshot,
      reading.quantiles = [.ofNat 5000 / .ofNat 10000, .ofNat 5001 / .ofNat 10000] ∧
      reading.quantiles.Nodup ∧
      ¬ (reading.measurements.map fun m => Path.name reading.id m.statistic).Nodup ∧
      ¬ (reading.measurements.map fun m =>
        (Series.ofMeasurement "host" 0 reading.id m).metric).Nodup := by
  intro registry
  have below : Below (.ofNat 5000 / .ofNat 10000) (.ofNat 5001 / .ofNat 10000) :=
    below_of_le (by decide +kernel) (by decide +kernel)
  obtain ⟨reading, member, shown⟩ :=
    exists_reading_of_latency (by decide +kernel) (List.pairwise_pair.mpr below)
  have different : reading.quantiles.Nodup := by
    rw [shown]
    exact List.pairwise_pair.mpr below.ne
  have repeated : ¬ (reading.quantiles.map thousandths).Nodup := by
    rw [shown]
    decide +kernel
  refine ⟨reading, member, shown, different, ?_, ?_⟩
  · rwa [reading.nodup_paths_iff]
  · rwa [reading.nodup_metrics_iff]

end Registry
end Telemetry
