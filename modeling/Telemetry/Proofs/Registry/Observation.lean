import Telemetry.Proofs.Registry.Holding
import Telemetry.Timed.Basic

/-! Recording one operation under a name. Whoever is granted the timer adds one observation to it; a
timer that is new may bring gauges of its quantiles, and everything else is left alone. -/
namespace Telemetry.Registry
variable {registry after registered : Registry} {handle timer : Handle} {meter : Meter}
  {name : String} {tags : Tags} {quantiles : List Binary64} {error : Error}

/-- An operation was recorded in the timer of a name and tags, once, and other than that nothing is to
be seen. -/
structure RecordsOnce (before after : Registry) (name : String) (tags : Tags)
    (quantiles : List Binary64) (duration : Duration) (timer : Handle) : Prop where
  continues : Continues before after
  held : after.held? .timer name tags = some timer
  /-- The timer has seen one operation more than before, or this one alone if it is new. -/
  recorded : ∃ timings,
    after.meter? timer = some ⟨before.effectiveId name tags, .timer (timings.record duration)⟩ ∧
      (before.meter? timer = some ⟨before.effectiveId name tags, .timer timings⟩ ∨
        before.meter? timer = none ∧ timings = .new quantiles)
  others : ∀ handle meter, handle ≠ timer → before.meter? handle = some meter →
    after.meter? handle = some meter
  /-- What is new beside the timer shows a quantile of it. -/
  added : ∀ handle meter, handle ≠ timer → before.meter? handle = none →
    after.meter? handle = some meter → ∃ q, meter.instrument = .gauge (.quantile timer q)
  entries : ∀ id handle, before.index.get? id = none → after.index.get? id = some handle →
    id = before.effectiveId name tags ∧ handle = timer ∨ ∃ q, id = before.quantileGaugeId name tags q

/-- Publishing the quantiles of a timer adds nothing but gauges of that timer. -/
theorem publishQuantiles_extend_gauges (registry : Registry) (timer : Handle) (name : String)
    (tags : Tags) (quantiles : List Binary64) :
    Extends (fun instrument => ∃ q, instrument = .gauge (.quantile timer q)) registry
      (quantiles.foldl (publishQuantile timer name tags) registry) := by
  induction quantiles generalizing registry with
  | nil => exact .refl _ _
  | cons q rest ih =>
    refine Extends.trans ?_ (ih _)
    rw [publishQuantile_eq]
    cases asked : registry.gauge (quantileGaugeName name) (quantileGaugeTags tags q)
        (.quantile timer q) with
    | error error => exact .refl _ _
    | ok answer => exact (register_extends asked).mono fun instrument same => ⟨q, same⟩

/-- The timer that a request leads to: it was there with what it had seen, or it is new. -/
theorem timer_meter (indexed : WellIndexed registry)
    (granted : registry.timer name tags quantiles = .ok (timer, after)) :
    ∃ timings, after.meter? timer = some ⟨registry.effectiveId name tags, .timer timings⟩ ∧
      (registry.meter? timer = some ⟨registry.effectiveId name tags, .timer timings⟩ ∨
        registry.meter? timer = none ∧ timings = .new quantiles) := by
  obtain ⟨registered, asked, rfl⟩ := timer_cases granted
  have publishing := publishQuantiles_extend_gauges registered timer name tags
    (registered.quantilesOf timer)
  rcases register_cases asked with ⟨-, added⟩ | ⟨meter, found, isTimer, rfl⟩
  · have new := registry.add_meter (registry.effectiveId name tags) (.timer (.new quantiles))
    rw [added] at new
    cases added
    exact ⟨_, publishing.meter? new, .inr ⟨List.getElem?_eq_none (Nat.le_refl _), rfl⟩⟩
  · have held := ((find?_eq_some_iff _).mp found).2
    have sameId := id_of_find? indexed found
    obtain ⟨id, instrument⟩ := meter
    cases instrument with
    | timer timings =>
      cases sameId
      exact ⟨timings, publishing.meter? held, .inl held⟩
    | _ => cases isTimer

/-- What is new beside the timer is a gauge of it. -/
theorem timer_adds_gauges (granted : registry.timer name tags quantiles = .ok (timer, after))
    (other : handle ≠ timer) (unknown : registry.meter? handle = none)
    (held : after.meter? handle = some meter) :
    ∃ q, meter.instrument = .gauge (.quantile timer q) := by
  obtain ⟨registered, asked, rfl⟩ := timer_cases granted
  have publishing := publishQuantiles_extend_gauges registered timer name tags
    (registered.quantilesOf timer)
  rcases publishing.meter?_cases held with old | ⟨-, isGauge⟩
  · exact absurd (eq_of_register_adds asked unknown old) other
  · exact isGauge

/-- Recording is seen at the timer that it is done to. -/
private theorem meter?_record (registry : Registry) (timer handle : Handle) (duration : Duration) :
    (registry.record timer duration).meter? handle =
      (registry.meter? handle).map fun meter =>
        if timer = handle then meter.record duration else meter :=
  meter?_modify registry timer handle _

theorem recordNamed_of_refused (refused : registry.timer name tags quantiles = .error error)
    (duration : Duration) : registry.recordNamed name tags quantiles duration = registry := by
  rw [recordNamed, refused]

/-- Who is granted the timer records once. -/
theorem recordNamed_recordsOnce (indexed : WellIndexed registry)
    (granted : registry.timer name tags quantiles = .ok (timer, registered))
    (duration : Duration) :
    RecordsOnce registry (registry.recordNamed name tags quantiles duration) name tags quantiles
      duration timer := by
  have recorded : registry.recordNamed name tags quantiles duration =
      registered.record timer duration := by
    rw [recordNamed, granted]
  rw [recorded]
  have asking := timer_continues indexed granted
  have recording := record_continues asking.indexed timer duration
  have grant := timer_granted indexed granted
  constructor
  case continues => exact asking.trans recording
  case held => exact held?_of_timer_granted indexed granted recording
  case recorded =>
    obtain ⟨timings, held, before⟩ := timer_meter indexed granted
    refine ⟨timings, ?_, before⟩
    rw [meter?_record, held, Option.map_some, if_pos rfl]
    rfl
  case others =>
    intro handle meter other held
    rw [meter?_record, grant.meters handle meter held, Option.map_some, if_neg (Ne.symm other)]
  case added =>
    intro handle meter other unknown held
    rw [meter?_record] at held
    obtain ⟨middle, heldMiddle, same⟩ := Option.map_eq_some_iff.mp held
    rw [if_neg (Ne.symm other)] at same
    exact timer_adds_gauges granted other unknown (same ▸ heldMiddle)
  case entries =>
    intro id handle absent entry
    rcases grant.added id handle absent entry with own | ⟨q, -, gauge, -⟩
    · exact .inl own
    · exact .inr ⟨q, gauge⟩

end Telemetry.Registry
