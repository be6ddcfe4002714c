import Telemetry.Proofs.Registry.Growth
import Telemetry.Proofs.Text.Blank
import Telemetry.Startup.Basic

/-! Asking for a meter, and being refused. Between its steps a request looks the id up, puts a meter
under it, checks the kind and publishes quantiles; `carryOut` keeps what each step leaves, also when a
later one fails. It comes out the same as asking all at once, where a refusal has nothing to leave: so
nothing is left behind. -/
namespace Telemetry

/-- What is asked for. -/
inductive Wanted where
  | counter
  | gauge (source : Source)
  | timer (quantiles : List Binary64)
  | longTaskTimer

/-- The instrument that is put behind a new meter. -/
def Wanted.fresh : Wanted → Instrument
  | counter => .counter 0
  | gauge source => .gauge source
  | timer quantiles => .timer (.new quantiles)
  | longTaskTimer => .longTaskTimer .empty

/-- The kind that is asked for. -/
def Wanted.kind (wanted : Wanted) : MeterKind := wanted.fresh.kind

namespace Registry
variable {registry after : Registry} {id other : MeterId} {handle held timer : Handle}
  {meter : Meter} {name : String} {tags : Tags} {fresh : Instrument} {wanted : Wanted} {error : Error}

/-- Asks for a meter. -/
def ask (registry : Registry) (name : String) (tags : Tags) :
    Wanted → Except Error (Handle × Registry)
  | .counter => registry.counter name tags
  | .gauge source => registry.gauge name tags source
  | .timer quantiles => registry.timer name tags quantiles
  | .longTaskTimer => registry.longTaskTimer name tags

/-! ## Step by step -/

/-- The meter under an id. If there is none, a new one is put there first. -/
def findOrAdd (registry : Registry) (id : MeterId) (fresh : Instrument) :
    (Handle × Meter) × Registry :=
  match registry.find? id with
  | some found => (found, registry)
  | none =>
    let (handle, after) := registry.add id fresh
    ((handle, ⟨id, fresh⟩), after)

/-- The handle of a meter, if the meter is of the kind that is asked for. -/
def expectKind (requested : MeterKind) : Handle × Meter → Except Error Handle
  | (handle, meter) =>
    if meter.kind = requested then .ok handle
    else .error (.kindConflict meter.id.name meter.kind requested)

/-- Gets the meter of a name and tags: a meter that is there is only looked at, and otherwise one is
put there and looked at again. -/
def getOrRegister (name : String) (tags : Tags) (fresh : Instrument) (registry : Registry) :
    Except Error Handle × Registry :=
  if Text.trimmed name = "" then (.error (.invalidName name), registry)
  else
    let id := registry.effectiveId name tags
    match registry.find? id with
    | some found => (expectKind fresh.kind found, registry)
    | none =>
      let (found, after) := registry.findOrAdd id fresh
      (expectKind fresh.kind found, after)

/-- Publishes some quantiles of a timer, whether or not each can be. -/
def publishAll (timer : Handle) (name : String) (tags : Tags) : List Binary64 → Registry → Registry
  | [], registry => registry
  | q :: rest, registry =>
    let (_, after) := getOrRegister (quantileGaugeName name) (quantileGaugeTags tags q)
      (.gauge (.quantile timer q)) registry
    publishAll timer name tags rest after

/-- Carries a request out. The registry that comes back is what the last step left. -/
def carryOut (name : String) (tags : Tags) :
    Wanted → Registry → Except Error Handle × Registry
  | .timer quantiles, registry =>
    match getOrRegister name tags (.timer (.new quantiles)) registry with
    | (.error error, after) => (.error error, after)
    | (.ok timer, after) =>
      (.ok timer, publishAll timer name tags (after.quantilesOf timer) after)
  | wanted, registry => getOrRegister name tags wanted.fresh registry

private theorem getOrRegister_eq (name : String) (tags : Tags) (fresh : Instrument)
    (registry : Registry) :
    getOrRegister name tags fresh registry =
      Attempt.register (·.register name tags fresh) registry := by
  unfold getOrRegister Attempt.register register
  by_cases blank : Text.isBlankText name = true
  · simp [(Text.trimmed_eq_empty_iff name).mpr blank, blank]
  · have written : Text.trimmed name ≠ "" := mt (Text.trimmed_eq_empty_iff name).mp blank
    simp only [if_neg written, if_neg blank]
    cases found : registry.find? (registry.effectiveId name tags) with
    | none =>
      simp only [findOrAdd, found, expectKind, Meter.kind, if_true]
    | some pair =>
      obtain ⟨handle, meter⟩ := pair
      by_cases sameKind : meter.kind = fresh.kind <;> simp [expectKind, sameKind]

private theorem publishAll_eq (timer : Handle) (name : String) (tags : Tags)
    (quantiles : List Binary64) (registry : Registry) :
    publishAll timer name tags quantiles registry =
      quantiles.foldl (publishQuantile timer name tags) registry := by
  induction quantiles generalizing registry with
  | nil => rfl
  | cons q rest ih =>
    have step : (getOrRegister (quantileGaugeName name) (quantileGaugeTags tags q)
        (.gauge (.quantile timer q)) registry).2 = publishQuantile timer name tags registry q := by
      rw [getOrRegister_eq, publishQuantile_eq, gauge, Attempt.register]
      cases registry.register (quantileGaugeName name) (quantileGaugeTags tags q)
        (.gauge (.quantile timer q)) <;> rfl
    rw [publishAll, List.foldl_cons, ← step]
    exact ih _

/-- Carried out step by step, a request comes to what it comes to at once; and a refusal, wherever
among the steps it arises, leaves the registry as it was. -/
theorem carryOut_eq (name : String) (tags : Tags) (wanted : Wanted) (registry : Registry) :
    carryOut name tags wanted registry =
      match registry.ask name tags wanted with
      | .ok (handle, after) => (.ok handle, after)
      | .error error => (.error error, registry) := by
  cases wanted with
  | timer quantiles =>
    simp only [carryOut, getOrRegister_eq, Attempt.register, ask, Registry.timer]
    cases registry.register name tags (.timer (.new quantiles)) with
    | error error => rfl
    | ok answer => simp only [publishAll_eq]
  | _ => exact getOrRegister_eq _ _ _ _

/-! ## Refusals -/

/-- Under a sound index the meter that is found under an id has that id. -/
theorem id_of_find? (indexed : WellIndexed registry)
    (found : registry.find? id = some (handle, meter)) : meter.id = id := by
  obtain ⟨entry, held⟩ := (find?_eq_some_iff _).mp found
  obtain ⟨indexedMeter, heldToo, sameId⟩ := indexed id handle entry
  rw [held] at heldToo
  cases heldToo
  exact sameId

/-- The two reasons to refuse a request: there is no name, or the id is held by another kind. -/
theorem register_eq_error_iff (indexed : WellIndexed registry) :
    registry.register name tags fresh = .error error ↔
      Text.trimmed name = "" ∧ error = .invalidName name ∨
      Text.trimmed name ≠ "" ∧ ∃ handle meter,
        registry.find? (registry.effectiveId name tags) = some (handle, meter) ∧
        meter.kind ≠ fresh.kind ∧ error = .kindConflict name meter.kind fresh.kind := by
  unfold register
  by_cases blank : Text.isBlankText name = true
  · simp [(Text.trimmed_eq_empty_iff name).mpr blank, blank, eq_comm]
  · have written : Text.trimmed name ≠ "" := mt (Text.trimmed_eq_empty_iff name).mp blank
    simp only [if_neg blank, written, false_and, false_or, ne_eq, not_false_eq_true, true_and]
    cases found : registry.find? (registry.effectiveId name tags) with
    | none => simp
    | some pair =>
      obtain ⟨handle, meter⟩ := pair
      have sameName : meter.id.name = name := by rw [id_of_find? indexed found]; rfl
      by_cases sameKind : meter.kind = fresh.kind
      · simp [sameKind]
      · simp only [sameKind, if_false, sameName, Except.error.injEq, Option.some.injEq,
          Prod.mk.injEq]
        constructor
        · rintro rfl
          exact ⟨handle, meter, ⟨rfl, rfl⟩, sameKind, rfl⟩
        · rintro ⟨_, _, ⟨rfl, rfl⟩, -, rfl⟩
          rfl

/-- A timer is refused for the same reasons as any other meter; its quantiles are none. -/
theorem ask_eq_error_iff : registry.ask name tags wanted = .error error ↔
    registry.register name tags wanted.fresh = .error error := by
  cases wanted with
  | timer quantiles =>
    simp only [ask, timer, Wanted.fresh]
    cases registry.register name tags (.timer (.new quantiles)) <;> simp
  | _ => rfl

/-! ## Grants -/

/-- A granted request is seen in the index under its own id and nowhere else. -/
theorem register_index (granted : registry.register name tags fresh = .ok (handle, after))
    (other : MeterId) :
    after.index.get? other =
      if other = registry.effectiveId name tags then some handle
      else registry.index.get? other := by
  rcases register_cases granted with ⟨-, added⟩ | ⟨meter, found, -, rfl⟩
  · cases added
    by_cases same : other = registry.effectiveId name tags
    · rw [if_pos same, same]
      exact OrderedMap.get?_insert_self _ _ _
    · rw [if_neg same]
      exact OrderedMap.get?_insert_of_ne _ _ same
  · by_cases same : other = after.effectiveId name tags
    · rw [if_pos same, same, ((find?_eq_some_iff _).mp found).1]
    · rw [if_neg same]

/-- The id of the gauge that shows one quantile of a timer. -/
def quantileGaugeId (registry : Registry) (name : String) (tags : Tags) (q : Binary64) : MeterId :=
  registry.effectiveId (quantileGaugeName name) (quantileGaugeTags tags q)

/-- A gauge of quantiles always has a name, whatever its timer is called. -/
private theorem isBlankText_quantileGaugeName (name : String) :
    Text.isBlankText (quantileGaugeName name) = false := by
  have behind : (".quantiles".toList.all Text.isBlank) = false := by decide
  rw [Text.isBlankText, quantileGaugeName, String.toList_append, List.all_append, behind,
    Bool.and_false]

/-- One quantile comes to nothing, as another kind holds the id of its gauge, or the gauge is
there. -/
theorem publishQuantile_cases (indexed : WellIndexed registry) (timer : Handle) (name : String)
    (tags : Tags) (q : Binary64) :
    (publishQuantile timer name tags registry q = registry ∧
      ∃ held, registry.index.get? (registry.quantileGaugeId name tags q) = some held) ∨
    ∃ gauge, registry.register (quantileGaugeName name) (quantileGaugeTags tags q)
      (.gauge (.quantile timer q)) = .ok (gauge, publishQuantile timer name tags registry q) := by
  rw [publishQuantile_eq, gauge]
  cases asked : registry.register (quantileGaugeName name) (quantileGaugeTags tags q)
      (.gauge (.quantile timer q)) with
  | ok answer => exact .inr ⟨answer.1, rfl⟩
  | error error =>
    refine .inl ⟨rfl, ?_⟩
    rcases (register_eq_error_iff indexed).mp asked with ⟨blank, -⟩ | ⟨-, held, meter, found, -⟩
    · have written := isBlankText_quantileGaugeName name
      rw [(Text.trimmed_eq_empty_iff _).mp blank] at written
      cases written
    · exact ⟨held, ((find?_eq_some_iff _).mp found).1⟩

/-- The gauges that came into the index when some quantiles of a timer were published. -/
def ShowsQuantile (before after : Registry) (timer : Handle) (name : String) (tags : Tags)
    (quantiles : List Binary64) (id : MeterId) (handle : Handle) : Prop :=
  ∃ q ∈ quantiles, id = before.quantileGaugeId name tags q ∧
    after.meter? handle = some ⟨id, .gauge (.quantile timer q)⟩

private theorem publishQuantile_added (indexed : WellIndexed registry) {q : Binary64}
    (absent : registry.index.get? id = none)
    (entry : (publishQuantile timer name tags registry q).index.get? id = some handle) :
    ShowsQuantile registry (publishQuantile timer name tags registry q) timer name tags [q] id
      handle := by
  rcases publishQuantile_cases indexed timer name tags q with ⟨same, -⟩ | ⟨gauge, granted⟩
  · rw [same, absent] at entry
    cases entry
  · rw [register_index granted] at entry
    split at entry
    · rename_i sameId
      cases entry
      rcases register_cases granted with ⟨-, added⟩ | ⟨meter, found, -, -⟩
      · refine ⟨q, List.mem_singleton_self q, sameId, ?_⟩
        have meter := registry.add_meter id (.gauge (.quantile timer q))
        rw [sameId, added] at meter
        rw [sameId]
        exact meter
      · rw [← sameId] at found
        rw [((find?_eq_some_iff _).mp found).1] at absent
        cases absent
    · rw [absent] at entry
      cases entry

/-- Publishing quantiles puts nothing but their gauges into the index. -/
private theorem publishQuantiles_added (indexed : WellIndexed registry) (quantiles : List Binary64)
    (absent : registry.index.get? id = none)
    (entry : (quantiles.foldl (publishQuantile timer name tags) registry).index.get? id =
      some handle) :
    ShowsQuantile registry (quantiles.foldl (publishQuantile timer name tags) registry) timer name
      tags quantiles id handle := by
  induction quantiles generalizing registry with
  | nil =>
    rw [List.foldl_nil, absent] at entry
    cases entry
  | cons q rest ih =>
    have grows := publishQuantile_grows indexed timer name tags q
    have first := publishQuantile_extends timer name tags registry q
    rw [List.foldl_cons] at entry ⊢
    cases next : (publishQuantile timer name tags registry q).index.get? id with
    | none =>
      obtain ⟨p, member, sameId, shown⟩ := ih grows.indexed next entry
      rw [quantileGaugeId, first.effectiveId] at sameId
      exact ⟨p, List.mem_cons_of_mem q member, sameId, shown⟩
    | some gauge =>
      have later : Grows _ (rest.foldl (publishQuantile timer name tags) _) :=
        publishQuantiles_grow grows.indexed rest
      have same : gauge = handle := by
        have kept := later.entries id gauge next
        rw [entry] at kept
        exact (Option.some.inj kept).symm
      obtain ⟨p, member, sameId, shown⟩ := publishQuantile_added indexed absent next
      cases List.mem_singleton.mp member
      rw [← same]
      exact ⟨q, List.mem_cons_self, sameId,
        (publishQuantiles_extend _ rest).meter? shown⟩

/-- Once some quantiles were published, the id of the gauge of each is held: by that gauge, or by what
was there before. -/
private theorem publishQuantiles_held (indexed : WellIndexed registry) (quantiles : List Binary64)
    {q : Binary64} (member : q ∈ quantiles) :
    ∃ held, (quantiles.foldl (publishQuantile timer name tags) registry).index.get?
      (registry.quantileGaugeId name tags q) = some held := by
  induction quantiles generalizing registry with
  | nil => cases member
  | cons p rest ih =>
    have grows := publishQuantile_grows indexed timer name tags p
    have later : Grows _ (rest.foldl (publishQuantile timer name tags) _) :=
      publishQuantiles_grow grows.indexed rest
    rw [List.foldl_cons]
    rcases List.mem_cons.mp member with rfl | inRest
    · rcases publishQuantile_cases indexed timer name tags q with ⟨-, held, entry⟩ | ⟨gauge, granted⟩
      · exact ⟨held, later.entries _ _ (grows.entries _ _ entry)⟩
      · refine ⟨gauge, later.entries _ _ ?_⟩
        rw [register_index granted]
        exact if_pos rfl
    · have sameTags := publishQuantile_extends timer name tags registry p
      obtain ⟨held, entry⟩ := ih grows.indexed inRest
      rw [quantileGaugeId, sameTags.effectiveId] at entry
      exact ⟨held, entry⟩

/-- What a granted request leaves: the meter that was asked for, under its id, and beside it at most
gauges of its quantiles. -/
structure Granted (before : Registry) (name : String) (tags : Tags) (kind : MeterKind)
    (handle : Handle) (after : Registry) : Prop where
  found : ∃ meter, after.find? (before.effectiveId name tags) = some (handle, meter) ∧
    meter.id = before.effectiveId name tags ∧ meter.kind = kind
  /-- Everything that could be seen before is as it was. -/
  meters : ∀ held meter, before.meter? held = some meter → after.meter? held = some meter
  surroundings : after.clock = before.clock ∧ after.commonTags = before.commonTags ∧
    after.probes = before.probes
  entries : ∀ id held, before.index.get? id = some held → after.index.get? id = some held
  /-- What came into the index is the meter, or a gauge of one of its quantiles. -/
  added : ∀ id new, before.index.get? id = none → after.index.get? id = some new →
    id = before.effectiveId name tags ∧ new = handle ∨
      ShowsQuantile before after handle name tags (after.quantilesOf handle) id new
  /-- No quantile keeps a later one from being published. -/
  published : ∀ q ∈ after.quantilesOf handle,
    ∃ held, after.index.get? (before.quantileGaugeId name tags q) = some held

private theorem quantilesOf_of_kind (held : registry.meter? handle = some meter)
    (noTimer : meter.kind ≠ .timer) : registry.quantilesOf handle = [] := by
  obtain ⟨id, instrument⟩ := meter
  cases instrument with
  | timer timings => exact absurd rfl noTimer
  | _ => simp [quantilesOf, held, Meter.timings?]

private theorem quantilesOf_extends {new : Instrument → Prop} (growth : Extends new registry after)
    (held : registry.meter? handle = some meter) :
    after.quantilesOf handle = registry.quantilesOf handle := by
  rw [quantilesOf, quantilesOf, growth.meter? held, held]

private theorem register_found (indexed : WellIndexed registry)
    (granted : registry.register name tags fresh = .ok (handle, after)) :
    ∃ meter, after.find? (registry.effectiveId name tags) = some (handle, meter) ∧
      meter.id = registry.effectiveId name tags ∧ meter.kind = fresh.kind := by
  obtain ⟨meter, found, sameKind⟩ := register_finds granted
  exact ⟨meter, found, id_of_find? (register_holds indexed granted).1.indexed found, sameKind⟩

/-- A meter that is no timer is all that a request for it brings. -/
private theorem register_granted (indexed : WellIndexed registry)
    (granted : registry.register name tags fresh = .ok (handle, after))
    (noTimer : fresh.kind ≠ .timer) : Granted registry name tags fresh.kind handle after := by
  have growth := register_extends granted
  obtain ⟨meter, found, sameId, sameKind⟩ := register_found indexed granted
  have none : after.quantilesOf handle = [] :=
    quantilesOf_of_kind ((find?_eq_some_iff _).mp found).2 (sameKind ▸ noTimer)
  refine ⟨⟨meter, found, sameId, sameKind⟩, fun _ _ => growth.meter?,
    ⟨growth.clock, growth.commonTags, growth.probes⟩,
    (register_holds indexed granted).1.entries, ?_, ?_⟩
  · intro id new absent entry
    rw [register_index granted] at entry
    split at entry
    · rename_i sameId
      exact .inl ⟨sameId, (Option.some.inj entry).symm⟩
    · rw [absent] at entry
      cases entry
  · rw [none]
    exact List.forall_mem_nil _

/-- A timer brings the gauges of the quantiles it keeps. -/
theorem timer_granted (indexed : WellIndexed registry) {quantiles : List Binary64}
    (granted : registry.timer name tags quantiles = .ok (handle, after)) :
    Granted registry name tags .timer handle after := by
  have growth := timer_extends granted
  have entries := (timer_grows indexed granted).entries
  obtain ⟨registered, asked, shape⟩ := timer_cases granted
  have first := register_holds indexed asked
  have firstGrowth := register_extends asked
  obtain ⟨meter, found, sameId, sameKind⟩ := register_found indexed asked
  obtain ⟨entry, held⟩ := (find?_eq_some_iff _).mp found
  have rest : Extends OfTimer registered after := by
    rw [shape]
    exact publishQuantiles_extend registered _
  have restEntries : ∀ id held, registered.index.get? id = some held →
      after.index.get? id = some held := by
    rw [shape]
    exact (publishQuantiles_grow first.1.indexed _).entries
  have sameQuantiles : after.quantilesOf handle = registered.quantilesOf handle :=
    quantilesOf_extends rest held
  have sameGauge (q : Binary64) :
      registered.quantileGaugeId name tags q = registry.quantileGaugeId name tags q :=
    firstGrowth.effectiveId _ _
  refine ⟨⟨meter, ?_, sameId, sameKind⟩, fun _ _ => growth.meter?,
    ⟨growth.clock, growth.commonTags, growth.probes⟩, entries, ?_, ?_⟩
  · exact (find?_eq_some_iff _).mpr ⟨restEntries _ _ entry, rest.meter? held⟩
  · intro id new absent entryAfter
    cases between : registered.index.get? id with
    | some other =>
      have same := restEntries id other between
      rw [entryAfter] at same
      rw [register_index asked] at between
      split at between
      · rename_i sameId
        cases between
        exact .inl ⟨sameId, Option.some.inj same⟩
      · rw [absent] at between
        cases between
    | none =>
      rw [shape] at entryAfter
      obtain ⟨q, member, sameId, shown⟩ := publishQuantiles_added first.1.indexed _ between entryAfter
      rw [← shape] at shown
      exact .inr ⟨q, sameQuantiles ▸ member, sameId.trans (sameGauge q), shown⟩
  · intro q member
    obtain ⟨held, entryAfter⟩ :=
      publishQuantiles_held first.1.indexed _ (sameQuantiles ▸ member)
    rw [← shape, sameGauge] at entryAfter
    exact ⟨held, entryAfter⟩

theorem ask_granted (indexed : WellIndexed registry)
    (granted : registry.ask name tags wanted = .ok (handle, after)) :
    Granted registry name tags wanted.kind handle after := by
  cases wanted with
  | timer quantiles => exact timer_granted indexed granted
  | counter => exact register_granted indexed granted nofun
  | gauge source => exact register_granted indexed granted nofun
  | longTaskTimer => exact register_granted indexed granted nofun

/-- **A refused registration leaves no trace.** In every state that a registry without meters can get
to, a request is refused for want of a name exactly if the name is all white space, and otherwise,
with both kinds named, exactly if the id is held by a meter of another kind; there is no other
refusal. Carried out step by step, a refused request leaves the registry as it was, and one that is
granted leaves the meter under its id with at most the gauges of its quantiles beside it, where a
gauge that cannot be had is passed over. -/
theorem refused_registration_leaves_no_trace (clock : Clock) (commonTags : Tags)
    (history : List Operation) (name : String) (tags : Tags) (wanted : Wanted) :
    let registry := (Registry.new clock commonTags).run history
    (registry.ask name tags wanted = .error (.invalidName name) ↔ Text.trimmed name = "") ∧
    (∀ existing requested,
      registry.ask name tags wanted = .error (.kindConflict name existing requested) ↔
        Text.trimmed name ≠ "" ∧ requested = wanted.kind ∧ existing ≠ requested ∧
          ∃ handle meter, registry.find? (registry.effectiveId name tags) = some (handle, meter) ∧
            meter.kind = existing) ∧
    match registry.ask name tags wanted with
    | .error error =>
      (error = .invalidName name ∨ ∃ existing, error = .kindConflict name existing wanted.kind) ∧
        carryOut name tags wanted registry = (.error error, registry)
    | .ok (handle, after) =>
      carryOut name tags wanted registry = (.ok handle, after) ∧
        Granted registry name tags wanted.kind handle after := by
  intro registry
  have indexed : WellIndexed registry := history_wellIndexed clock commonTags history
  refine ⟨?_, ?_, ?_⟩
  · rw [ask_eq_error_iff, register_eq_error_iff indexed]
    simp
  · intro existing requested
    rw [ask_eq_error_iff, register_eq_error_iff indexed]
    constructor
    · rintro (⟨-, other⟩ | ⟨written, handle, meter, found, otherKind, same⟩)
      · cases other
      · cases same
        exact ⟨written, rfl, otherKind, handle, meter, found, rfl⟩
    · rintro ⟨written, rfl, otherKind, handle, meter, found, rfl⟩
      exact .inr ⟨written, handle, meter, found, otherKind, rfl⟩
  · have steps := carryOut_eq name tags wanted registry
    cases asked : registry.ask name tags wanted with
    | ok answer =>
      rw [asked] at steps
      exact ⟨steps, ask_granted indexed asked⟩
    | error error =>
      rw [asked] at steps
      refine ⟨?_, steps⟩
      rw [ask_eq_error_iff, register_eq_error_iff indexed] at asked
      rcases asked with ⟨-, blank⟩ | ⟨-, -, meter, -, -, conflict⟩
      · exact .inl blank
      · exact .inr ⟨meter.kind, conflict⟩

/-- A counter stands where a gauge is asked for: the gauge is refused and leaves the registry as it
was. -/
theorem refused_gauge_leaves_no_trace :
    let tags : Tags := .ofList [("quantile", "0.5")]
    let history : List Operation := [.counter "latency.quantiles" tags]
    let registry := (Registry.new ⟨0, 0⟩ .empty).run history
    let refusal : Error := .kindConflict "latency.quantiles" .counter .gauge
    registry.ask "latency.quantiles" tags (.gauge (.constant .zero)) = .error refusal ∧
      carryOut "latency.quantiles" tags (.gauge (.constant .zero)) registry =
        (.error refusal, registry) := by
  intro tags history registry refusal
  obtain ⟨-, conflict, outcome⟩ := refused_registration_leaves_no_trace ⟨0, 0⟩ .empty history
    "latency.quantiles" tags (.gauge (.constant .zero))
  have held : registry.find? (registry.effectiveId "latency.quantiles" tags) =
      some (⟨0⟩, ⟨⟨"latency.quantiles", tags⟩, .counter 0⟩) := by decide +kernel
  have refused := (conflict .counter .gauge).mpr
    ⟨by decide +kernel, rfl, nofun, ⟨0⟩, ⟨_, .counter 0⟩, held, rfl⟩
  rw [refused] at outcome
  exact ⟨refused, outcome.2⟩

end Registry
end Telemetry
