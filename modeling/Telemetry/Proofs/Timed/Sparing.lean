import Telemetry.Proofs.Timed.Recording

/-! What timing leaves alone. Starting tasks, ending them and recording time are confined to the
timers that descriptors lead to: they bring no other meter but gauges of the quantiles of these,
they lead no id elsewhere, and so every other meter shows what it showed. -/
namespace Telemetry.Registry

/-- A meter is one of some timers, or a gauge that shows a quantile of one. -/
inductive Concerns (among : List Handle) (handle : Handle) (meter : Meter) : Prop where
  | own (member : handle ∈ among)
  | quantileGauge {timer : Handle} (q : Binary64) (member : timer ∈ among)
      (shows : meter.instrument = .gauge (.quantile timer q))

/-- Nothing is changed but some timers, and nothing comes but them and gauges of their quantiles. -/
structure Confined (among : List Handle) (before after : Registry) : Prop where
  continues : Continues before after
  kept : ∀ handle meter, handle ∉ among → before.meter? handle = some meter →
    after.meter? handle = some meter
  added : ∀ handle meter, before.meter? handle = none → after.meter? handle = some meter →
    Concerns among handle meter
  /-- An id that leads to a meter which was there led to it before. -/
  entries : ∀ id handle, after.index.get? id = some handle →
    before.index.get? id = some handle ∨ before.meter? handle = none

/-- Other than some timers and gauges of their quantiles, no meter is changed, or comes or goes, or
is found where it was not; and each shows what it showed. -/
structure Spares (among : List Handle) (before after : Registry) : Prop where
  meters : ∀ handle meter, ¬ Concerns among handle meter →
    (after.meter? handle = some meter ↔ before.meter? handle = some meter)
  found : ∀ id handle meter, ¬ Concerns among handle meter →
    (after.find? id = some (handle, meter) ↔ before.find? id = some (handle, meter))
  readings : ∀ handle meter, ¬ Concerns among handle meter → before.meter? handle = some meter →
    after.valueOf meter = before.valueOf meter

variable {registry before middle after : Registry} {among : List Handle} {handle timer : Handle}
  {meter : Meter} {name : String} {tags : Tags} {fresh : Instrument}
  {quantiles : List Binary64} {serverRequests : Option String} {timings : List Timed}
  {samples : List Sample} {sample : Sample} {duration : Duration}

namespace Confined

theorem refl (indexed : WellIndexed registry) (among : List Handle) :
    Confined among registry registry where
  continues := .refl indexed
  kept _ _ _ held := held
  added _ _ unknown held := by rw [unknown] at held; cases held
  entries _ _ entry := .inl entry

theorem trans (first : Confined among before middle) (second : Confined among middle after) :
    Confined among before after := by
  have unknownBefore (handle : Handle) (unknown : middle.meter? handle = none) :
      before.meter? handle = none := by
    cases held : before.meter? handle with
    | none => rfl
    | some meter =>
      obtain ⟨later, heldLater, -⟩ := first.continues.grows.meters handle meter held
      rw [unknown] at heldLater
      cases heldLater
  constructor
  case continues => exact first.continues.trans second.continues
  case kept =>
    exact fun handle meter other held =>
      second.kept handle meter other (first.kept handle meter other held)
  case added =>
    intro handle meter unknown held
    cases between : middle.meter? handle with
    | none => exact second.added handle meter between held
    | some new =>
      -- What the first step brought is left as it is by the second, unless it is one of the timers.
      by_cases own : handle ∈ among
      · exact .own own
      · have same := second.kept handle new own between
        rw [held] at same
        cases same
        exact first.added handle meter unknown between
  case entries =>
    intro id handle entry
    rcases second.entries id handle entry with between | unknown
    · exact first.entries id handle between
    · exact .inr (unknownBefore handle unknown)

/-- What a handle shows as a timer is the same, if it is none of these. -/
theorem timings? (confined : Confined among before after) (other : timer ∉ among) :
    (after.meter? timer).bind Meter.timings? = (before.meter? timer).bind Meter.timings? := by
  cases heldBefore : before.meter? timer with
  | some meter => rw [confined.kept timer meter other heldBefore]
  | none =>
    cases held : after.meter? timer with
    | none => rfl
    | some meter =>
      rcases confined.added timer meter heldBefore held with own | ⟨q, member, shows⟩
      · exact absurd own other
      · simp [Meter.timings?, shows]

/-- What is not concerned is spared. -/
theorem spares (confined : Confined among before after) : Spares among before after := by
  have meters (handle : Handle) (meter : Meter) (apart : ¬ Concerns among handle meter) :
      after.meter? handle = some meter ↔ before.meter? handle = some meter := by
    have other : handle ∉ among := fun own => apart (.own own)
    refine ⟨fun held => ?_, confined.kept handle meter other⟩
    cases heldBefore : before.meter? handle with
    | none => exact absurd (confined.added handle meter heldBefore held) apart
    | some old =>
      rw [← held]
      exact (confined.kept handle old other heldBefore).symm
  refine ⟨meters, fun id handle meter apart => ?_, fun handle meter apart held => ?_⟩
  · rw [find?_eq_some_iff, find?_eq_some_iff]
    constructor
    · rintro ⟨entry, held⟩
      have heldBefore := (meters handle meter apart).mp held
      rcases confined.entries id handle entry with led | unknown
      · exact ⟨led, heldBefore⟩
      · rw [unknown] at heldBefore
        cases heldBefore
    · rintro ⟨entry, held⟩
      exact ⟨confined.continues.grows.entries id handle entry, (meters handle meter apart).mpr held⟩
  · obtain ⟨id, instrument⟩ := meter
    cases instrument with
    | gauge source =>
      cases source with
      | quantile timer q =>
        have other : timer ∉ among := fun own => apart (.quantileGauge q own rfl)
        simp only [valueOf, sourceValue, confined.timings? other]
      | probe probe => simp only [valueOf, sourceValue, confined.continues.probes]
      | constant value => rfl
    | longTaskTimer tasks => simp only [valueOf, confined.continues.clock]
    | _ => rfl

end Confined

/-! ## Single steps -/

/-- A request that is granted brings no meter but the one that it leads to. -/
theorem register_confined (indexed : WellIndexed registry)
    (granted : registry.register name tags fresh = .ok (handle, after))
    (concerned : ∀ meter, meter.instrument = fresh → Concerns among handle meter) :
    Confined among registry after := by
  have growth := register_extends granted
  constructor
  case continues => exact register_continues indexed granted
  case kept => exact fun _ _ _ held => growth.meter? held
  case added =>
    intro other meter unknown held
    rcases growth.meter?_cases held with old | ⟨-, isFresh⟩
    · rw [unknown] at old
      cases old
    · rw [eq_of_register_adds granted unknown held]
      exact concerned meter isFresh
  case entries =>
    intro id other entry
    rw [register_index granted] at entry
    split at entry
    · rename_i sameId
      cases entry
      rcases register_cases granted with ⟨-, added⟩ | ⟨meter, found, -, rfl⟩
      · cases added
        exact .inr (List.getElem?_eq_none (Nat.le_refl _))
      · rw [sameId]
        exact .inl ((find?_eq_some_iff _).mp found).1
    · exact .inl entry

theorem publishQuantile_confined (indexed : WellIndexed registry) (own : timer ∈ among)
    (name : String) (tags : Tags) (q : Binary64) :
    Confined among registry (publishQuantile timer name tags registry q) := by
  rcases publishQuantile_cases indexed timer name tags q with ⟨same, -⟩ | ⟨gauge, granted⟩
  · rw [same]
    exact .refl indexed among
  · exact register_confined indexed granted fun meter shows => .quantileGauge q own shows

theorem publishQuantiles_confined (indexed : WellIndexed registry) (own : timer ∈ among)
    (name : String) (tags : Tags) (quantiles : List Binary64) :
    Confined among registry (quantiles.foldl (publishQuantile timer name tags) registry) := by
  induction quantiles generalizing registry with
  | nil => exact .refl indexed among
  | cons q rest ih =>
    have first := publishQuantile_confined indexed own name tags q
    exact first.trans (ih first.continues.indexed)

theorem timer_confined (indexed : WellIndexed registry)
    (granted : registry.timer name tags quantiles = .ok (timer, after)) (own : timer ∈ among) :
    Confined among registry after := by
  obtain ⟨registered, asked, rfl⟩ := timer_cases granted
  have first := register_confined indexed asked fun _ _ => .own own
  exact first.trans (publishQuantiles_confined first.continues.indexed own name tags _)

theorem modify_confined (indexed : WellIndexed registry) {change : Meter → Meter}
    (identity : KeepsIdentity change) (own : handle ∈ among) :
    Confined among registry (registry.modify handle change) where
  continues := .of_modify indexed handle identity
  kept other meter apart held := by
    have elsewhere : handle ≠ other := fun same => apart (same ▸ own)
    rw [meter?_modify, held, Option.map_some, if_neg elsewhere]
  added other meter unknown held := by
    rw [meter?_modify, unknown] at held
    cases held
  entries _ _ entry := .inl entry

/-! ## Whole lists of descriptors -/

private theorem timer_of_startTask (started : registry.startTask timer = some (sample, after)) :
    sample.timer = timer := by
  unfold startTask at started
  split at started
  · cases started
  · cases started
    rfl

theorem startTask_confined (indexed : WellIndexed registry)
    (started : registry.startTask timer = some (sample, after)) (own : sample.timer ∈ among) :
    Confined among registry after := by
  rw [startTask_eq_perform started, perform_startTask]
  rw [timer_of_startTask started] at own
  exact modify_confined indexed (mapTasks_keepsIdentity _) own

theorem Starts.confined (starts : Starts serverRequests registry timings samples after)
    (indexed : WellIndexed registry) (own : ∀ sample ∈ samples, sample.timer ∈ among) :
    Confined among registry after := by
  induction starts with
  | done => exact .refl indexed among
  | unnamed missing rest ih => exact ih indexed own
  | refused named refusal rest ih => exact ih indexed own
  | started named granted began rest ih =>
    obtain ⟨ownHere, ownLater⟩ := List.forall_mem_cons.mp own
    have asking : Confined among _ _ := register_confined indexed granted fun _ _ =>
      .own (timer_of_startTask began ▸ ownHere)
    have starting := startTask_confined asking.continues.indexed began ownHere
    exact asking.trans (starting.trans (ih starting.continues.indexed ownLater))

theorem startAll_confined (indexed : WellIndexed registry) (serverRequests : Option String)
    (timings : List Timed) :
    Confined ((registry.startAll serverRequests timings).1.map (·.timer)) registry
      (registry.startAll serverRequests timings).2 :=
  (startAll_starts serverRequests registry timings).confined indexed fun _ member =>
    List.mem_map_of_mem member

theorem stopAll_confined (indexed : WellIndexed registry)
    (own : ∀ sample ∈ samples, sample.timer ∈ among) :
    Confined among registry (registry.stopAll samples) := by
  induction samples generalizing registry with
  | nil => exact .refl indexed among
  | cons sample rest ih =>
    obtain ⟨ownHere, ownLater⟩ := List.forall_mem_cons.mp own
    have first : Confined among registry (registry.stopTask sample) :=
      modify_confined indexed (mapTasks_keepsIdentity _) ownHere
    exact first.trans (ih first.continues.indexed ownLater)

theorem Records.confined (records : Records serverRequests tags duration registry timings after)
    (indexed : WellIndexed registry)
    (own : ∀ timed ∈ timings, ∀ timer,
      after.heldFor? .timer serverRequests (tags.merge ·.extraTags) timed = some timer →
        timer ∈ among) :
    Confined among registry after := by
  induction records with
  | done => exact .refl indexed among
  | unnamed missing rest ih => exact ih indexed (List.forall_mem_cons.mp own).2
  | refused named refusal rest ih => exact ih indexed (List.forall_mem_cons.mp own).2
  | @recorded _ _ _ registry middle after timer named granted rest ih =>
    obtain ⟨ownHere, ownLater⟩ := List.forall_mem_cons.mp own
    -- Who is granted a timer in its turn still leads to it in the end.
    have ledTo : timer ∈ among := by
      refine ownHere timer ?_
      rw [← (Records.recorded named granted rest).head indexed, timerFor?, named,
        Option.bind_some, granted]
      rfl
    have asking := timer_confined indexed granted ledTo
    have recording : Confined among middle (middle.record timer duration) :=
      modify_confined asking.continues.indexed (record_keepsIdentity duration) ledTo
    exact asking.trans (recording.trans (ih recording.continues.indexed ownLater))

end Telemetry.Registry
