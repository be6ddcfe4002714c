import Telemetry.Proofs.Server.Timing
import Telemetry.Server.Session

/-! Where the tags of a request come from. The tags of a descriptor go over those of the request, and
these over the common ones. Of the request only its method, the template of its route and its end are
told: two requests that are alike in these leave the same registry, whatever their paths are.

While a request is handled, names of exceptions may be stored from anywhere. A tagger refers to the cell
of its request, and a clone of it to the same cell; a tagger from outside a timed request refers to
none. -/
namespace Telemetry.Server
open Registry (Operation WellIndexed)
variable {ρ : Type} {timing : Timing} {request : Request} {entry : Route.Entry Pattern} {own : Nat}
  {moves : List Move}

/-! ## Storing names -/

/-- What a handler does while it runs. -/
inductive Move where
  | does (operation : Operation)
  /-- Stores a name through a tagger, which may be for the cell of any request. -/
  | stores (tagger : Option Nat) (tag : Tag)

/-- What the moves of a handler are made in: the registry, and the cells of taggers. -/
structure Scene where
  registry : Registry
  cells : Nat → Option String

/-- The name that a tag stores. -/
def Timing.nameOf (timing : Timing) : Tag → String
  | .name name => name
  | .raised raised => timing.faultNames.nameOf raised

namespace Scene

/-- Makes one move. -/
def move (timing : Timing) (scene : Scene) : Move → Scene
  | .does operation => { scene with registry := scene.registry.perform operation }
  | .stores none _ => scene
  | .stores (some cell) tag =>
    { scene with cells := fun other =>
        if other = cell then some (timing.nameOf tag) else scene.cells other }

/-- Makes some moves, one after the other. -/
def run (timing : Timing) (scene : Scene) (moves : List Move) : Scene :=
  moves.foldl (move timing) scene

end Scene

/-- The operation of a move, if it is one. -/
def Move.operation? : Move → Option Operation
  | does operation => some operation
  | stores _ _ => none

/-- The name that a move stores in a cell, if it does. -/
def Move.nameIn? (timing : Timing) (cell : Nat) : Move → Option String
  | does _ => none
  | stores tagger tag => if tagger = some cell then some (timing.nameOf tag) else none

/-- The name that some moves store in a cell last. -/
def Timing.lastStored (timing : Timing) (cell : Nat) (moves : List Move) : Option String :=
  (moves.filterMap (Move.nameIn? timing cell)).getLast?

/-- Operations are made in the registry, whatever is stored in between. -/
theorem run_registry (timing : Timing) (scene : Scene) (moves : List Move) :
    (scene.run timing moves).registry = scene.registry.run (moves.filterMap Move.operation?) := by
  induction moves generalizing scene with
  | nil => rfl
  | cons move rest ih =>
    refine (ih _).trans ?_
    match move with
    | .does operation => rfl
    | .stores none tag => rfl
    | .stores (some cell) tag => rfl

private theorem move_cells (timing : Timing) (scene : Scene) (move : Move) (cell : Nat) :
    (scene.move timing move).cells cell = (move.nameIn? timing cell).or (scene.cells cell) := by
  match move with
  | .does operation => rfl
  | .stores none tag => rfl
  | .stores (some other) tag =>
    simp only [Scene.move, Move.nameIn?, Option.some.injEq]
    by_cases same : cell = other
    · simp [same]
    · simp [same, Ne.symm same]

/-- A cell holds the name that was stored last through any tagger for it, and else what it held. -/
theorem run_cells (timing : Timing) (scene : Scene) (moves : List Move) (cell : Nat) :
    (scene.run timing moves).cells cell =
      (timing.lastStored cell moves).or (scene.cells cell) := by
  induction moves generalizing scene with
  | nil => rfl
  | cons move rest ih =>
    refine (ih _).trans ?_
    rw [move_cells, Timing.lastStored, Timing.lastStored, ← Option.or_assoc]
    congr 1
    cases named : move.nameIn? timing cell with
    | none => rw [List.filterMap_cons_none named, Option.or_none]
    | some name =>
      rw [List.filterMap_cons_some named, List.getLast?_cons]
      cases (rest.filterMap (Move.nameIn? timing cell)).getLast? <;> rfl

/-- A server that is told its tags one by one stores the same. -/
theorem stored_eq_lastStored (running : Running) (tags : List Tag) (cell : Nat) :
    running.stored true tags =
      running.timing.lastStored cell (tags.map (.stores (some cell))) := by
  have names : (tags.map (Move.stores (some cell))).filterMap
      (Move.nameIn? running.timing cell) = tags.map running.timing.nameOf := by
    simp [List.filterMap_map, Function.comp_def, Move.nameIn?, List.filterMap_eq_map']
  rw [Running.stored, if_pos rfl, Timing.lastStored, names, List.getLast?_map]
  cases tags.getLast? with
  | none => rfl
  | some tag => cases tag <;> rfl

/-! ## Handling -/

/-- What a handler does in all. -/
structure Handling (ρ : Type) where
  moves : List Move
  outcome : Outcome ρ

/-- Handles a request with a new cell for its tagger, beside the cells of others. -/
def Timing.handleIn (timing : Timing) (own : Nat) (elsewhere : Nat → Option String)
    (handler : Bool → Registry → Handling ρ) (timed : Bool) (registry : Registry) :
    Outcome ρ × Option String × Registry :=
  let handling := handler timed registry
  let left := Scene.run timing ⟨registry, fun cell => if cell = own then none else elsewhere cell⟩
    handling.moves
  (handling.outcome, left.cells own, left.registry)

/-- What comes of handling does not depend on the cells of others. -/
theorem handleIn_eq (timing : Timing) (own : Nat) (elsewhere : Nat → Option String)
    (handler : Bool → Registry → Handling ρ) (timed : Bool) (registry : Registry) :
    timing.handleIn own elsewhere handler timed registry =
      ((handler timed registry).outcome, timing.lastStored own (handler timed registry).moves,
        registry.run ((handler timed registry).moves.filterMap Move.operation?)) := by
  simp only [Timing.handleIn, run_registry, run_cells, if_true, Option.or_none]

/-- The exception of a request that was handled: on an answer the name that was stored last, and on a
fault the name of the fault. -/
def Timing.exceptionIn (timing : Timing) (own : Nat) (handling : Handling ρ) : String :=
  match handling.outcome with
  | .answered _ _ => (timing.lastStored own handling.moves).getD "none"
  | .failed raised => timing.faultNames.nameOf raised

/-- The tags of a request that was handled, by key. -/
def requestTag? (method template status exception key : String) : Option String :=
  if key = "method" then some method
  else if key = "uri" then some template
  else if key = "status" then some status
  else if key = "exception" then some exception
  else none

private theorem default_get? (method template status exception key : String) :
    (RequestTags.default.server method template status exception).get? key =
      requestTag? method template status exception key := by
  simp only [RequestTags.default, Tags.ofList, Tags.insertAll, List.foldl_cons, List.foldl_nil,
    OrderedMap.get?_insert, Std.LawfulEqCmp.compare_eq_iff_eq, OrderedMap.get?_empty, requestTag?]
  by_cases isMethod : key = "method"
  · subst isMethod
    simp
  by_cases isUri : key = "uri"
  · subst isUri
    simp
  by_cases isStatus : key = "status"
  · subst isStatus
    simp
  · simp only [if_neg isMethod, if_neg isUri, if_neg isStatus]

/-- Two ends of requests that are told alike: the same status, or faults of the same name. -/
def Timing.EndAlike (timing : Timing) : Outcome ρ → Outcome ρ → Prop
  | .answered status _, .answered other _ => status = other
  | .failed raised, .failed other =>
    timing.faultNames.nameOf raised = timing.faultNames.nameOf other
  | _, _ => False

/-- The timer of a descriptor: its own tags go over those of the request, and these over the common
ones. -/
private theorem tags_of_heldFor? {after : Registry} (indexed : WellIndexed after)
    {serverRequests : Option String} {tags : Tags} {timed : Timed} {timer : Handle}
    (held : after.heldFor? .timer serverRequests (tags.merge ·.extraTags) timed = some timer) :
    ∃ meter, after.meter? timer = some meter ∧ meter.kind = .timer ∧
      timed.resolve? serverRequests = some meter.id.name ∧
      ∀ key, meter.id.tags.get? key =
        (timed.extraTags.get? key).or ((tags.get? key).or (after.commonTags.get? key)) := by
  obtain ⟨name, named, held⟩ := Option.bind_eq_some_iff.mp held
  obtain ⟨-, meter, found, isTimer⟩ := Registry.held?_eq_some_iff.mp held
  refine ⟨meter, ((Registry.find?_eq_some_iff _).mp found).2, isTimer, ?_⟩
  rw [Registry.id_of_find? indexed found]
  refine ⟨named, fun key => ?_⟩
  rw [Registry.effectiveId, Tags.get?_merge, Tags.get?_merge, Option.or_assoc]

private theorem exceptionOf_eq (timing : Timing) (own : Nat) (handling : Handling ρ) :
    timing.exceptionOf (timing.lastStored own handling.moves) handling.outcome =
      timing.exceptionIn own handling := by
  unfold Timing.exceptionOf Timing.exceptionIn
  cases handling.outcome <;> rfl

/-- Ends that are told alike are recorded alike, if the same was stored. -/
theorem EndAlike.complete {first second : Outcome ρ} (alike : timing.EndAlike first second)
    (flight : InFlight) (stored : Option String) (registry : Registry) :
    timing.complete flight second stored registry = timing.complete flight first stored registry := by
  have same : second.status = first.status ∧
      timing.exceptionOf stored second = timing.exceptionOf stored first := by
    cases first <;> cases second <;> simp_all [Timing.EndAlike, Outcome.status, Timing.exceptionOf]
  rw [Timing.complete, Timing.complete, same.1, same.2]

/-- **The tags of a request have one precedence, and tell nothing of its path.** Each timer that a
request is recorded in has the tags of the descriptor, under these the method, the template of the route,
the status and the exception, and under these the common tags, and no others. Another request of the
same method that comes to the same route, does the same and ends alike leaves the same registry, whatever
its path and whatever is stored for other requests. -/
theorem request_tags_have_one_precedence (clock : Clock) (commonTags : Tags)
    (history : List Operation) (usual : timing.tags = .default)
    (found : timing.routes.lookup request.method request.target = some entry)
    (handler : Bool → Registry → Handling ρ) (own : Nat) (elsewhere : Nat → Option String) :
    let registry := (Registry.new clock commonTags).run history
    ∃ flight begun, timing.begin request registry = some (flight, begun) ∧
      let handling := handler true begun
      let left := begun.run (handling.moves.filterMap Move.operation?)
      let status := handling.outcome.status
      let exception := timing.exceptionIn own handling
      let tags :=
        RequestTags.default.server request.method entry.template.pattern status exception
      ∃ ended after,
        timing.call request (timing.handleIn own elsewhere handler) registry =
          (handling.outcome, after) ∧
        SetsTasks left ended flight.samples none ∧
        Observes ended after (some timing.requestsName) tags
          (left.clock.since registry.clock.nanos) (Timed.shortTasks entry.timings) ∧
        (∀ timed ∈ Timed.shortTasks entry.timings, ∀ timer,
          after.heldFor? .timer (some timing.requestsName) (tags.merge ·.extraTags) timed =
            some timer →
          ∃ meter, after.meter? timer = some meter ∧ meter.kind = .timer ∧
            timed.resolve? (some timing.requestsName) = some meter.id.name ∧
            ∀ key, meter.id.tags.get? key = (timed.extraTags.get? key).or
              ((requestTag? request.method entry.template.pattern status exception key).or
                (left.commonTags.get? key))) ∧
        ∀ (twin : Request) (other : Bool → Registry → Handling ρ) (around : Nat → Option String),
          twin.method = request.method →
          timing.routes.lookup twin.method twin.target = some entry →
          (other true begun).moves = handling.moves →
          timing.EndAlike handling.outcome (other true begun).outcome →
          (timing.call twin (timing.handleIn own around other) registry).2 = after := by
  intro registry
  have indexed : WellIndexed registry := Registry.history_wellIndexed clock commonTags history
  have numbered : registry.TasksNumbered := Registry.history_tasksNumbered clock commonTags history
  have begins := begin_of_lookup found registry
  have opens := startAll_setsTasks indexed numbered (some timing.requestsName)
    (Timed.longTasks entry.timings)
  refine ⟨_, _, begins, ?_⟩
  intro handling left status exception tags
  have indexedLeft : WellIndexed left := (Registry.run_keeps opens.continues.indexed _).1
  let flight : InFlight := ⟨request.method, entry.template.pattern, entry.timings,
    registry.clock.nanos, (registry.startAll (some timing.requestsName)
      (Timed.longTasks entry.timings)).1⟩
  obtain ⟨ended, ends, observes⟩ := complete_observes indexedLeft timing flight handling.outcome
    (timing.lastStored own handling.moves)
  have told : timing.tagsOf flight handling.outcome (timing.lastStored own handling.moves) =
      tags := by
    rw [Timing.tagsOf, usual, exceptionOf_eq]
  rw [told] at observes
  refine ⟨ended, _, ?_, ends, observes, ?_, ?_⟩
  · rw [Timing.call, begins]
    simp only [handleIn_eq]
    rfl
  · intro timed _ timer held
    obtain ⟨meter, isMeter, isTimer, named, tagged⟩ :=
      tags_of_heldFor? observes.continues.indexed held
    refine ⟨meter, isMeter, isTimer, named, fun key => ?_⟩
    rw [tagged, default_get?, observes.continues.commonTags, ends.continues.commonTags]
  · intro twin other around sameMethod twinFound sameMoves alike
    rw [Timing.call, begin_of_lookup twinFound]
    simp only [handleIn_eq, sameMoves, sameMethod]
    exact EndAlike.complete alike _ _ _

/-- Stores names here and elsewhere, and answers that nobody is found. -/
def searching : Bool → Registry → Handling Unit := fun _ _ =>
  ⟨[.stores (some 0) (.name "First"), .stores (some 1) (.name "Elsewhere"),
    .stores (some 0) (.name "Absent"), .stores none (.name "Nowhere")], .answered 404 ()⟩

/-- One user is searched for as another one is, and a timer has tags from all layers. -/
theorem searches_have_one_precedence :
    let timed : Timed := { name := .serverRequests, extraTags := .ofList [("env", "live")] }
    let entry : Route.Entry Pattern := ⟨some "GET",
      ⟨"/users/\x7bid\x7d", [.literal "users".toList, .capture none]⟩, [timed]⟩
    let timing : Timing := { routes := [entry] }
    let commonTags : Tags := .ofList [("env", "test"), ("status", "any"), ("zone", "a")]
    let tags := RequestTags.default.server "GET" "/users/\x7bid\x7d" "404" "Absent"
    let answer (path : String) := timing.call ⟨"GET", .path path⟩
      (timing.handleIn 0 (fun _ => none) searching) (Registry.new ⟨0, 0⟩ commonTags)
    timing.tags = .default ∧ timing.routes.lookup "GET" (.path "/users/7") = some entry ∧
      (answer "/users/8").2 = (answer "/users/7").2 ∧
      ∀ timer, (answer "/users/7").2.heldFor? .timer (some "http_server_requests")
          (tags.merge ·.extraTags) timed = some timer →
        ∃ meter, (answer "/users/7").2.meter? timer = some meter ∧
          ["env", "exception", "status", "uri", "zone"].map meter.id.tags.get? =
            [some "live", some "Absent", some "404", some "/users/\x7bid\x7d", some "a"] := by
  intro timed entry timing commonTags tags answer
  let request : Request := ⟨"GET", .path "/users/7"⟩
  have found : timing.routes.lookup request.method request.target = some entry := rfl
  obtain ⟨flight, begun, begins, ended, after, called, -, -, tagged, twins⟩ :=
    request_tags_have_one_precedence ⟨0, 0⟩ commonTags [] rfl found searching 0 fun _ => none
  have same : (answer "/users/7").2 = after := congrArg Prod.snd called
  have alike : (answer "/users/8").2 = after :=
    twins ⟨"GET", .path "/users/8"⟩ searching (fun _ => none) rfl rfl rfl rfl
  refine ⟨rfl, found, alike.trans same.symm, fun timer held => ?_⟩
  rw [same] at held ⊢
  obtain ⟨meter, isMeter, -, -, layers⟩ := tagged _ (List.mem_singleton_self _) timer held
  refine ⟨meter, isMeter, ?_⟩
  cases begins
  simp only [List.map_cons, List.map_nil, layers]
  decide +kernel

end Telemetry.Server
