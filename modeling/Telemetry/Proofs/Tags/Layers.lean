import Telemetry.Proofs.Registry.Registration
import Telemetry.Proofs.Startup.CommonTags
import Telemetry.Proofs.Tags
import Telemetry.Registry.Builder
import Telemetry.Settings.Builder

/-! Layers of tags. Merging is associative, so it does not matter how layers are grouped: whoever adds
common tags, in settings, to a registry that is being built, to one that is in use or at startup, puts a
layer over those that are there, and what they come to is the set of all the pairs in their order. -/
namespace Telemetry

namespace Tags
variable {a b c : Tags} {key value : String}

/-! ## The laws of merging -/

theorem merge_assoc (a b c : Tags) : (a.merge b).merge c = a.merge (b.merge c) :=
  OrderedMap.ext_get? fun key => by simp only [get?_merge, Option.or_assoc]

theorem merge_self (tags : Tags) : tags.merge tags = tags :=
  OrderedMap.ext_get? fun key => by rw [get?_merge, Option.or_self]

theorem merge_empty (tags : Tags) : tags.merge .empty = tags := rfl

/-- One set contains another one if each key of the other has its value there. -/
theorem containsAll_iff :
    a.containsAll b = true ↔ ∀ key value, b.get? key = some value → a.get? key = some value := by
  simp only [containsAll, List.all_eq_true, decide_eq_true_eq, Prod.forall,
    OrderedMap.get?_eq_some_iff b]

theorem containsAll_merge (a b : Tags) : (a.merge b).containsAll b = true :=
  containsAll_iff.mpr fun key value said => by rw [get?_merge, said, Option.some_or]

theorem containsAll_self (tags : Tags) : tags.containsAll tags = true :=
  containsAll_iff.mpr fun _ _ => id

theorem containsAll_trans (first : a.containsAll b = true) (second : b.containsAll c = true) :
    a.containsAll c = true :=
  containsAll_iff.mpr fun key value said =>
    containsAll_iff.mp first key value (containsAll_iff.mp second key value said)

theorem containsAll_antisymm (forth : a.containsAll b = true) (back : b.containsAll a = true) :
    a = b := by
  refine OrderedMap.ext_get? fun key => Option.ext fun value => ?_
  exact ⟨containsAll_iff.mp back key value, containsAll_iff.mp forth key value⟩

/-! ## Several layers -/

/-- Some tag sets over one another, the last one on top. -/
def overlay (tagSets : List Tags) : Tags := tagSets.foldl merge .empty

private theorem foldl_merge (tags : Tags) (tagSets : List Tags) :
    tagSets.foldl merge tags = tags.merge (overlay tagSets) := by
  induction tagSets generalizing tags with
  | nil => rfl
  | cons first rest ih =>
    rw [overlay, List.foldl_cons, List.foldl_cons, ih, ih (merge .empty first), empty_merge,
      merge_assoc]

theorem overlay_append (lower upper : List Tags) :
    overlay (lower ++ upper) = (overlay lower).merge (overlay upper) := by
  rw [overlay, List.foldl_append, foldl_merge, ← overlay]

theorem overlay_singleton (tags : Tags) : overlay [tags] = tags := empty_merge tags

/-- Layers of pairs come to the set of all the pairs, wherever one layer ends and the next begins. -/
private theorem overlay_map_ofList (segments : List (List (String × String))) :
    overlay (segments.map ofList) = ofList segments.flatten := by
  induction segments with
  | nil => rfl
  | cons first rest ih =>
    rw [List.map_cons, ← List.singleton_append, overlay_append, overlay_singleton, ih,
      List.flatten_cons, ofList_append]

/-- If each step puts some layers over the tags that there are, a run puts the layers of all its steps
over them. -/
theorem gather {σ ε : Type} {tagsOf : σ → Tags} {step : σ → ε → σ} {layers : ε → List Tags}
    (puts : ∀ state event, tagsOf (step state event) = (tagsOf state).merge (overlay (layers event)))
    (state : σ) (events : List ε) :
    tagsOf (events.foldl step state) =
      (tagsOf state).merge (overlay (events.flatMap layers)) := by
  induction events generalizing state with
  | nil => rfl
  | cons event rest ih =>
    rw [List.foldl_cons, ih, puts, List.flatMap_cons, overlay_append, merge_assoc]

end Tags

/-! ## Whoever adds common tags -/

open Tags (overlay gather)

/-- The tags that a call adds to settings. -/
def Settings.Call.tagSets : Settings.Call → List Tags
  | .commonTags tags => [tags]
  | _ => []

/-- The tags that an operation adds to a registry. -/
def Registry.Operation.tagSets : Registry.Operation → List Tags
  | .addCommonTags tags => [tags]
  | _ => []

private theorem Settings.commonTags_called (settings : Settings) (call : Settings.Call) :
    (settings.called call).commonTags = settings.commonTags.merge (overlay call.tagSets) := by
  cases call with
  | commonTags tags => exact congrArg settings.commonTags.merge (Tags.overlay_singleton tags).symm
  | _ => rfl

private theorem Registry.commonTags_perform_eq (registry : Registry) (operation : Operation) :
    (registry.perform operation).commonTags =
      registry.commonTags.merge (overlay operation.tagSets) := by
  cases operation with
  | addCommonTags tags => exact congrArg registry.commonTags.merge (Tags.overlay_singleton tags).symm
  | _ => exact commonTags_perform nofun

/-- The tags that somebody hands over: some tags as they are, or those of settings that calls put
together. -/
inductive Layer where
  | plain (tags : Tags)
  | settings (calls : List Settings.Call)

namespace Layer

/-- The tag set that is handed over. -/
def handed : Layer → Tags
  | plain tags => tags
  | settings calls => (Settings.ofCalls calls).commonTags

/-- The tag sets that went into a layer. -/
def tagSets : Layer → List Tags
  | plain tags => [tags]
  | settings calls => calls.flatMap Settings.Call.tagSets

private theorem overlay_tagSets (layer : Layer) : overlay layer.tagSets = layer.handed := by
  cases layer with
  | plain tags => exact Tags.overlay_singleton tags
  | settings calls =>
    have gathered := gather Settings.commonTags_called {} calls
    rw [show ({} : Settings).commonTags = .empty from rfl, Tags.empty_merge] at gathered
    exact gathered.symm

end Layer

/-- A call to whoever builds a registry. -/
inductive RegistryBuilder.Call where
  | clock (clock : Clock)
  | commonTags (layer : Layer)

namespace RegistryBuilder

def Call.tagSets : Call → List Tags
  | clock _ => []
  | commonTags layer => layer.tagSets

/-- The builder after a call. -/
def called (builder : RegistryBuilder) : Call → RegistryBuilder
  | .clock clock => builder.withClock clock
  | .commonTags layer => builder.withCommonTags layer.handed

private theorem commonTags_called (builder : RegistryBuilder) (call : Call) :
    (builder.called call).commonTags = builder.commonTags.merge (overlay call.tagSets) := by
  cases call with
  | clock clock => rfl
  | commonTags layer => exact congrArg builder.commonTags.merge layer.overlay_tagSets.symm

private theorem commonTags_build (builder : RegistryBuilder) (system : Clock) :
    (builder.build system).commonTags = builder.commonTags :=
  Tags.empty_merge builder.commonTags

end RegistryBuilder

/-- What happens to a registry: somebody adds common tags, a startup does by its configurers, or
anything else is done. -/
inductive Registry.Episode where
  | addCommonTags (layer : Layer)
  | startup (layers : List Layer)
  | other (operation : Registry.Operation)

namespace Registry

def Episode.tagSets : Episode → List Tags
  | addCommonTags layer => layer.tagSets
  | startup layers => layers.flatMap Layer.tagSets
  | other operation => operation.tagSets

/-- The operations that an episode amounts to. -/
def Episode.operations : Episode → List Operation
  | addCommonTags layer => [.addCommonTags layer.handed]
  | startup layers => layers.map fun layer => .addCommonTags layer.handed
  | other operation => [operation]

/-- The registry after an episode. -/
def undergo (registry : Registry) : Episode → Registry
  | .addCommonTags layer => registry.addCommonTags layer.handed
  | .startup layers =>
    (Startup.run ⟨layers.map fun layer => Telemetry.commonTags layer.handed, []⟩ registry).2
  | .other operation => registry.perform operation

/-- Configurers that add common tags all succeed. -/
private theorem passes_configurers (registry : Registry) (layers : List Layer) :
    Startup.Passes (layers.map fun layer => Telemetry.commonTags layer.handed) registry
      (registry.run (Episode.startup layers).operations) := by
  induction layers generalizing registry with
  | nil => exact .nil registry
  | cons layer rest ih => exact .cons rfl (ih _)

private theorem undergo_eq (registry : Registry) (episode : Episode) :
    registry.undergo episode = registry.run episode.operations := by
  cases episode with
  | addCommonTags layer => rfl
  | other operation => rfl
  | startup layers =>
    have passes := registry.passes_configurers layers
    rw [← List.append_nil (layers.map _)] at passes
    rw [undergo, Startup.run_eq_ok_iff.mpr passes]

private theorem commonTags_undergo (registry : Registry) (episode : Episode) :
    (registry.undergo episode).commonTags = registry.commonTags.merge (overlay episode.tagSets) := by
  cases episode with
  | addCommonTags layer => exact congrArg registry.commonTags.merge layer.overlay_tagSets.symm
  | other operation => exact commonTags_perform_eq registry operation
  | startup layers =>
    rw [undergo_eq, run, Episode.operations, List.foldl_map]
    exact @gather _ _ Registry.commonTags _ Layer.tagSets (fun before layer =>
      congrArg before.commonTags.merge layer.overlay_tagSets.symm) registry layers

end Registry

/-- A history of a registry, from the calls that prepare it on. -/
structure Layering where
  /-- The clock of the system, for a registry that is given none. -/
  system : Clock
  calls : List RegistryBuilder.Call
  episodes : List Registry.Episode

namespace Layering

/-- The builder after all calls. -/
def builder (layering : Layering) : RegistryBuilder :=
  layering.calls.foldl RegistryBuilder.called {}

/-- The registry in the end. -/
def registry (layering : Layering) : Registry :=
  layering.episodes.foldl Registry.undergo (layering.builder.build layering.system)

/-- All the tag sets that somebody added, in their order. -/
def tagSets (layering : Layering) : List Tags :=
  layering.calls.flatMap RegistryBuilder.Call.tagSets ++
    layering.episodes.flatMap Registry.Episode.tagSets

theorem commonTags_registry (layering : Layering) :
    layering.registry.commonTags = overlay layering.tagSets := by
  have prepared : layering.builder.commonTags =
      overlay (layering.calls.flatMap RegistryBuilder.Call.tagSets) :=
    (gather RegistryBuilder.commonTags_called {} layering.calls).trans (Tags.empty_merge _)
  rw [registry, gather Registry.commonTags_undergo, RegistryBuilder.commonTags_build, prepared,
    tagSets, Tags.overlay_append]

theorem registry_eq_run (layering : Layering) : layering.registry =
    (layering.builder.build layering.system).run
      (layering.episodes.flatMap Registry.Episode.operations) := by
  have steps : Registry.undergo = fun before episode => before.run episode.operations :=
    funext fun before => funext (Registry.undergo_eq before)
  rw [registry, Registry.run, List.foldl_flatMap, steps]
  rfl

theorem wellIndexed_registry (layering : Layering) : layering.registry.WellIndexed := by
  rw [registry_eq_run]
  exact Registry.history_wellIndexed _ _ _

/-- The id of a meter goes by the pairs that the layers come to, whatever the layers are. -/
theorem effectiveId_registry {layering : Layering} {segments : List (List (String × String))}
    (split : layering.tagSets = segments.map .ofList) (name : String) (own : Tags) :
    layering.registry.effectiveId name own =
      ⟨name, (Tags.ofList segments.flatten).merge own⟩ := by
  rw [Registry.effectiveId, commonTags_registry, split, Tags.overlay_map_ofList]

end Layering

/-- **Layers of tags come to the same however they are grouped.** Of two merged sets a key has its value
in the second if it has one there, and else its value in the first. So merging is associative and
idempotent, the empty set changes nothing on either side, a merged set contains its second part, and
containing is a partial order. And wherever a list of pairs is cut into layers, which then come to a
registry through settings, while it is built, when it is in use or at startup, in the order of the list:
a meter that somebody gets afterwards has one and the same id, and no other id stands in the way. -/
theorem layered_tags_merge_alike :
    (∀ (a b : Tags) (key : String),
      (∀ value, b.get? key = some value → (a.merge b).get? key = some value) ∧
      (b.get? key = none → (a.merge b).get? key = a.get? key)) ∧
    (∀ a b c : Tags, (a.merge b).merge c = a.merge (b.merge c)) ∧
    (∀ a : Tags, a.merge a = a ∧ a.merge .empty = a ∧ Tags.merge .empty a = a) ∧
    (∀ a b : Tags, (a.merge b).containsAll b = true) ∧
    (∀ a : Tags, a.containsAll a = true) ∧
    (∀ a b : Tags, a.containsAll b = true → b.containsAll a = true → a = b) ∧
    (∀ a b c : Tags, a.containsAll b = true → b.containsAll c = true → a.containsAll c = true) ∧
    ∀ (pairs : List (String × String)) (segments : List (List (String × String)))
      (layering : Layering), segments.flatten = pairs → layering.tagSets = segments.map .ofList →
      ∀ (name : String) (own : Tags) (wanted : Wanted),
        let id : MeterId := ⟨name, (Tags.ofList pairs).merge own⟩
        match layering.registry.ask name own wanted with
        | .ok (handle, after) => ∃ meter, after.find? id = some (handle, meter) ∧ meter.id = id ∧
            meter.kind = wanted.kind
        | .error _ => Text.trimmed name = "" ∨ ∃ handle meter,
            layering.registry.find? id = some (handle, meter) ∧ meter.kind ≠ wanted.kind := by
  refine ⟨fun a b key => ⟨fun value said => ?_, fun unsaid => ?_⟩, Tags.merge_assoc,
    fun a => ⟨a.merge_self, a.merge_empty, a.empty_merge⟩, Tags.containsAll_merge,
    Tags.containsAll_self, fun a b => Tags.containsAll_antisymm, fun a b c => Tags.containsAll_trans, ?_⟩
  · rw [Tags.get?_merge, said, Option.some_or]
  · rw [Tags.get?_merge, unsaid, Option.none_or]
  · rintro pairs segments layering rfl split name own wanted
    have indexed := layering.wellIndexed_registry
    have sameId := Layering.effectiveId_registry split name own
    cases asked : layering.registry.ask name own wanted with
    | ok answer =>
      have granted := (Registry.ask_granted indexed asked).found
      rwa [sameId] at granted
    | error error =>
      rw [Registry.ask_eq_error_iff, Registry.register_eq_error_iff indexed, sameId] at asked
      rcases asked with ⟨blank, -⟩ | ⟨-, handle, meter, found, otherKind, -⟩
      · exact .inl blank
      · exact .inr ⟨handle, meter, found, otherKind⟩

/-- Three pairs: the first comes through settings, the second is added to the registry in use, and the
third by a configurer, when there is a meter already. The next one is named as if all had come at
once. -/
theorem scattered_tags_name_one_meter :
    let pairs := [("env", "dev"), ("zone", "a"), ("env", "live")]
    let layering : Layering := ⟨⟨0, 0⟩,
      [.commonTags (.settings [.serverRequestsName "in", .commonTags (.ofList [("env", "dev")])]),
        .clock ⟨5, 7⟩],
      [.addCommonTags (.plain (.ofList [("zone", "a")])), .other (.counter "early" .empty),
        .startup [.plain (.ofList [("env", "live")])]]⟩
    layering.tagSets = [[("env", "dev")], [("zone", "a")], [("env", "live")]].map .ofList ∧
    ∃ handle after meter, layering.registry.ask "jobs" .empty .counter = .ok (handle, after) ∧
      after.find? ⟨"jobs", .ofList pairs⟩ = some (handle, meter) := by
  intro pairs layering
  have split : layering.tagSets =
      [[("env", "dev")], [("zone", "a")], [("env", "live")]].map .ofList := by decide +kernel
  obtain ⟨-, -, -, -, -, -, -, named⟩ := layered_tags_merge_alike
  have asked := named pairs _ layering rfl split "jobs" .empty .counter
  have free : layering.registry.find? ⟨"jobs", (Tags.ofList pairs).merge .empty⟩ = none := by
    decide +kernel
  cases answer : layering.registry.ask "jobs" .empty .counter with
  | ok granted =>
    simp only [answer] at asked
    obtain ⟨meter, found, -⟩ := asked
    exact ⟨split, _, _, meter, rfl, found⟩
  | error error =>
    simp only [answer, free] at asked
    rcases asked with blank | ⟨_, _, ⟨⟩, _⟩
    exact absurd blank (by decide +kernel)

end Telemetry
