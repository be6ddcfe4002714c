import Telemetry.Proofs.Registry.Identity

/-! What asking for meters leaves alone. A registry that was asked for meters has at most new ones
behind those it had; its clock, its common tags, its probes and the state of every meter are as they
were. -/
namespace Telemetry.Registry
variable {registry before middle after : Registry} {new wider : Instrument → Prop} {id : MeterId}
  {handle timer : Handle} {meter : Meter} {name : String} {tags : Tags} {fresh : Instrument}

/-- A registry with some new meters behind the ones it had. Of what is not in the index, nothing else
is different. -/
structure Extends (new : Instrument → Prop) (before after : Registry) : Prop where
  clock : after.clock = before.clock
  commonTags : after.commonTags = before.commonTags
  probes : after.probes = before.probes
  instances : ∃ added, after.instances = before.instances ++ added ∧
    ∀ meter ∈ added, new meter.instrument

namespace Extends

theorem refl (new : Instrument → Prop) (registry : Registry) : Extends new registry registry :=
  ⟨rfl, rfl, rfl, [], (List.append_nil _).symm, List.forall_mem_nil _⟩

theorem trans (first : Extends new before middle) (second : Extends new middle after) :
    Extends new before after := by
  obtain ⟨addedFirst, shapeFirst, newFirst⟩ := first.instances
  obtain ⟨addedSecond, shapeSecond, newSecond⟩ := second.instances
  refine ⟨second.clock.trans first.clock, second.commonTags.trans first.commonTags,
    second.probes.trans first.probes, addedFirst ++ addedSecond, ?_, ?_⟩
  · rw [shapeSecond, shapeFirst, List.append_assoc]
  · intro meter member
    exact (List.mem_append.mp member).elim (newFirst meter) (newSecond meter)

theorem mono (narrow : Extends new before after)
    (included : ∀ instrument, new instrument → wider instrument) : Extends wider before after := by
  obtain ⟨added, shape, isNew⟩ := narrow.instances
  exact ⟨narrow.clock, narrow.commonTags, narrow.probes, added, shape,
    fun meter member => included _ (isNew meter member)⟩

/-- A meter that was there is as it was. -/
theorem meter? (growth : Extends new before after) (held : before.meter? handle = some meter) :
    after.meter? handle = some meter := by
  obtain ⟨added, shape, -⟩ := growth.instances
  obtain ⟨bound, -⟩ := List.getElem?_eq_some_iff.mp held
  rw [Registry.meter?, shape, List.getElem?_append_left bound]
  exact held

/-- A meter that is there was there before, or it is a new one. -/
theorem meter?_cases (growth : Extends new before after)
    (held : after.meter? handle = some meter) :
    before.meter? handle = some meter ∨ before.meter? handle = none ∧ new meter.instrument := by
  obtain ⟨added, shape, isNew⟩ := growth.instances
  rw [Registry.meter?, shape] at held
  rcases Nat.lt_or_ge handle.index before.instances.length with old | behind
  · rw [List.getElem?_append_left old] at held
    exact .inl held
  · rw [List.getElem?_append_right behind] at held
    exact .inr ⟨List.getElem?_eq_none behind, isNew meter (List.mem_of_getElem? held)⟩

theorem effectiveId (growth : Extends new before after) (name : String) (tags : Tags) :
    after.effectiveId name tags = before.effectiveId name tags := by
  rw [Registry.effectiveId, growth.commonTags, Registry.effectiveId]

end Extends

theorem register_extends (granted : registry.register name tags fresh = .ok (handle, after)) :
    Extends (· = fresh) registry after := by
  rcases register_cases granted with ⟨-, added⟩ | ⟨meter, -, -, rfl⟩
  · cases added
    exact ⟨rfl, rfl, rfl, [⟨_, fresh⟩], rfl, fun meter member => by
      cases List.mem_singleton.mp member
      rfl⟩
  · exact .refl _ _

/-- A meter that was not there is the one that the request leads to. -/
theorem eq_of_register_adds {other : Handle}
    (granted : registry.register name tags fresh = .ok (handle, after))
    (unknown : registry.meter? other = none) (held : after.meter? other = some meter) :
    other = handle := by
  rcases register_cases granted with ⟨-, added⟩ | ⟨_, -, -, rfl⟩
  · cases added
    obtain ⟨bound, -⟩ := List.getElem?_eq_some_iff.mp held
    have outside := List.getElem?_eq_none_iff.mp unknown
    simp only [List.length_append, List.length_singleton] at bound
    obtain ⟨index⟩ := other
    rw [Handle.mk.injEq]
    exact Nat.le_antisymm (Nat.lt_succ_iff.mp bound) outside
  · rw [unknown] at held
    cases held

/-- The instruments that asking for a timer may bring: the timer, and gauges of its quantiles. -/
inductive OfTimer : Instrument → Prop where
  | timer (quantiles : List Binary64) : OfTimer (.timer (.new quantiles))
  | quantileGauge (timer : Handle) (q : Binary64) : OfTimer (.gauge (.quantile timer q))

theorem publishQuantile_extends (timer : Handle) (name : String) (tags : Tags) (registry : Registry)
    (q : Binary64) : Extends OfTimer registry (publishQuantile timer name tags registry q) := by
  rw [publishQuantile_eq]
  cases asked : registry.gauge (quantileGaugeName name) (quantileGaugeTags tags q)
      (.quantile timer q) with
  | error error => exact .refl _ _
  | ok answer =>
    refine (register_extends asked).mono fun instrument same => ?_
    rw [same]
    exact .quantileGauge timer q

theorem publishQuantiles_extend (registry : Registry) (quantiles : List Binary64) :
    Extends OfTimer registry (quantiles.foldl (publishQuantile timer name tags) registry) := by
  induction quantiles generalizing registry with
  | nil => exact .refl _ _
  | cons q rest ih => exact (publishQuantile_extends timer name tags registry q).trans (ih _)

theorem timer_extends {quantiles : List Binary64}
    (granted : registry.timer name tags quantiles = .ok (handle, after)) :
    Extends OfTimer registry after := by
  obtain ⟨registered, asked, rfl⟩ := timer_cases granted
  refine Extends.trans ?_ (publishQuantiles_extend registered _)
  refine (register_extends asked).mono fun instrument same => ?_
  rw [same]
  exact .timer quantiles

/-- What a request leads to is found under its id and of the kind that was asked for, whatever the
index was like before. -/
theorem register_finds (granted : registry.register name tags fresh = .ok (handle, after)) :
    ∃ meter, after.find? (registry.effectiveId name tags) = some (handle, meter) ∧
      meter.kind = fresh.kind := by
  rcases register_cases granted with ⟨-, added⟩ | ⟨meter, found, sameKind, rfl⟩
  · have held := registry.add_meter (registry.effectiveId name tags) fresh
    have entry : (registry.add (registry.effectiveId name tags) fresh).2.index.get?
        (registry.effectiveId name tags) =
          some (registry.add (registry.effectiveId name tags) fresh).1 :=
      OrderedMap.get?_insert_self _ _ _
    rw [added] at held entry
    exact ⟨_, (find?_eq_some_iff _).mpr ⟨entry, held⟩, rfl⟩
  · exact ⟨meter, found, sameKind⟩

end Telemetry.Registry
