import Telemetry.Client.Factory
import Telemetry.Proofs.Registry.Run

/-! What interceptors and transports of callers do, and who gets to see a request. With the world they
may do anything at all; the registry they use by its operations, so whatever a chain of them comes to
is a run. -/
namespace Telemetry.Client
open Registry (Operation)
variable {ω : Type}

/-- What somebody does: operations on the registry, and what becomes of the world. -/
structure Deed (ω : Type) where
  operations : List Operation
  world : ω

/-- The surroundings once something was done to them. -/
def Surroundings.undergo (surroundings : Surroundings ω) (deed : Deed ω) : Surroundings ω :=
  ⟨surroundings.registry.run deed.operations, deed.world⟩

/-- What an interceptor does about a request, and what it does about the outcome if it passed the
request on. -/
inductive Reaction (ω : Type) where
  | answer (deed : Deed ω) (outcome : Outcome)
  | proceed (deed : Deed ω) (passed : Request)
    (after : Outcome → Surroundings ω → Deed ω × Outcome)

/-- How an interceptor of a caller behaves. -/
abbrev Conduct (ω : Type) := Request → Surroundings ω → Reaction ω

/-- How a transport behaves. -/
abbrev Dispatch (ω : Type) := Request → Surroundings ω → Deed ω × Outcome

/-- The interceptor that behaves like that. -/
def Conduct.interceptor (conduct : Conduct ω) : Interceptor ω := fun request surroundings =>
  match conduct request surroundings with
  | .answer deed outcome => (.answer outcome, surroundings.undergo deed)
  | .proceed deed passed after =>
    (.proceed passed fun outcome later =>
      let (deed, outcome) := after outcome later
      (outcome, later.undergo deed), surroundings.undergo deed)

/-- The transport that behaves like that. -/
def Dispatch.transport (dispatch : Dispatch ω) : Transport ω := fun request surroundings =>
  let (deed, outcome) := dispatch request surroundings
  (outcome, surroundings.undergo deed)

private theorem execute_of_answer {transport : Transport ω} {interceptor : Interceptor ω}
    {rest : List (Interceptor ω)} {request : Request} {surroundings after : Surroundings ω}
    {outcome : Outcome}
    (decided : interceptor request surroundings = (.answer outcome, after)) :
    execute transport (interceptor :: rest) request surroundings = (outcome, after) := by
  rw [execute, decided]

private theorem execute_of_proceed {transport : Transport ω} {interceptor : Interceptor ω}
    {rest : List (Interceptor ω)} {request passed : Request} {surroundings later : Surroundings ω}
    {settle : Outcome → Surroundings ω → Outcome × Surroundings ω}
    (decided : interceptor request surroundings = (.proceed passed settle, later)) :
    execute transport (interceptor :: rest) request surroundings =
      settle (execute transport rest passed later).1 (execute transport rest passed later).2 := by
  rw [execute, decided]

/-- Whatever becomes of a request, the registry has been used by operations, one after the other. -/
theorem execute_runs (dispatch : Dispatch ω) (conducts : List (Conduct ω)) (request : Request)
    (surroundings : Surroundings ω) :
    ∃ operations,
      (execute dispatch.transport (conducts.map Conduct.interceptor) request surroundings).2.registry =
        surroundings.registry.run operations := by
  -- What an interceptor does before and after stands around what all those behind it do.
  induction conducts generalizing request surroundings with
  | nil => exact ⟨(dispatch request surroundings).1.operations, rfl⟩
  | cons conduct rest ih =>
    rw [List.map_cons]
    cases decided : conduct request surroundings with
    | answer deed outcome =>
      have answered : conduct.interceptor request surroundings =
          (.answer outcome, surroundings.undergo deed) := by
        rw [Conduct.interceptor, decided]
      rw [execute_of_answer answered]
      exact ⟨deed.operations, rfl⟩
    | proceed deed passed after =>
      have proceeded : conduct.interceptor request surroundings =
          (.proceed passed fun outcome later =>
            ((after outcome later).2, later.undergo (after outcome later).1),
            surroundings.undergo deed) := by
        rw [Conduct.interceptor, decided]
      obtain ⟨operations, ran⟩ := ih passed (surroundings.undergo deed)
      rw [execute_of_proceed proceeded]
      generalize execute dispatch.transport (rest.map Conduct.interceptor) passed
        (surroundings.undergo deed) = inner at ran ⊢
      refine ⟨deed.operations ++ operations ++ (after inner.1 inner.2).1.operations, ?_⟩
      rw [Registry.run_append, Registry.run_append]
      exact congrArg (Registry.run · (after inner.1 inner.2).1.operations) ran

/-! ## Who gets to see a request -/

/-- Who gets to see a request: an interceptor, by its place among those of the caller, or the
transport. -/
inductive Stop where
  | interceptor (place : Nat)
  | transport
deriving DecidableEq

/-- A world with a note of everybody who got to see the request. -/
structure Watched (ω : Type) where
  world : ω
  stops : List Stop

/-- The surroundings with such a note. -/
def Surroundings.watched (surroundings : Surroundings ω) (stops : List Stop) :
    Surroundings (Watched ω) :=
  ⟨surroundings.registry, surroundings.world, stops⟩

/-- The surroundings without the note. -/
def Surroundings.unwatched (surroundings : Surroundings (Watched ω)) : Surroundings ω :=
  ⟨surroundings.registry, surroundings.world.world⟩

theorem unwatched_watched (surroundings : Surroundings ω) (stops : List Stop) :
    (surroundings.watched stops).unwatched = surroundings := rfl

/-- The interceptor, which does not see the note, noted down when it gets a request. -/
def Interceptor.watched (place : Nat) (interceptor : Interceptor ω) : Interceptor (Watched ω) :=
  fun request surroundings =>
    let stops := surroundings.world.stops ++ [.interceptor place]
    match interceptor request surroundings.unwatched with
    | (.answer outcome, after) => (.answer outcome, after.watched stops)
    | (.proceed passed settle, after) =>
      (.proceed passed fun outcome later =>
        let (outcome, after) := settle outcome later.unwatched
        (outcome, after.watched later.world.stops), after.watched stops)

/-- The transport, noted down when it gets a request. -/
def Transport.watched (transport : Transport ω) : Transport (Watched ω) :=
  fun request surroundings =>
    let (outcome, after) := transport request surroundings.unwatched
    (outcome, after.watched (surroundings.world.stops ++ [.transport]))

/-- Some interceptors, noted down by their places from a given one on. -/
def watchedFrom (place : Nat) : List (Interceptor ω) → List (Interceptor (Watched ω))
  | [] => []
  | interceptor :: rest => interceptor.watched place :: watchedFrom (place + 1) rest

/-- The way of a request that nobody answers on it: by all interceptors in order, to the transport. -/
def wayFrom (place count : Nat) : List Stop :=
  (List.range' place count).map .interceptor ++ [.transport]

private theorem wayFrom_succ (place count : Nat) :
    wayFrom place (count + 1) = .interceptor place :: wayFrom (place + 1) count := by
  rw [wayFrom, List.range'_succ, List.map_cons, List.cons_append, wayFrom]

/-- A request goes some part of its way, one stop after the other, and never back; and whether
anybody watches makes no difference. -/
theorem execute_watched (transport : Transport ω) (interceptors : List (Interceptor ω))
    (place : Nat) (request : Request) (surroundings : Surroundings ω) (seen : List Stop) :
    ∃ stops, stops ≠ [] ∧ stops <+: wayFrom place interceptors.length ∧
      execute transport.watched (watchedFrom place interceptors) request
          (surroundings.watched seen) =
        ((execute transport interceptors request surroundings).1,
          (execute transport interceptors request surroundings).2.watched (seen ++ stops)) := by
  -- For any note to begin with: the interceptors behind the first find its stop noted already.
  induction interceptors generalizing place request surroundings seen with
  | nil => exact ⟨[.transport], List.cons_ne_nil _ _, List.prefix_refl _, rfl⟩
  | cons interceptor rest ih =>
    rw [List.length_cons, wayFrom_succ, watchedFrom]
    rcases decided : interceptor request surroundings with ⟨outcome | ⟨passed, settle⟩, after⟩
    · have answered : interceptor.watched place request (surroundings.watched seen) =
          (.answer outcome, after.watched (seen ++ [.interceptor place])) := by
        simp only [Interceptor.watched, unwatched_watched, decided]
        rfl
      rw [execute_of_answer answered, execute_of_answer decided]
      exact ⟨[.interceptor place], List.cons_ne_nil _ _, by simp, rfl⟩
    · have proceeded : interceptor.watched place request (surroundings.watched seen) =
          (.proceed passed fun outcome later =>
            ((settle outcome later.unwatched).1,
              (settle outcome later.unwatched).2.watched later.world.stops),
            after.watched (seen ++ [.interceptor place])) := by
        simp only [Interceptor.watched, unwatched_watched, decided]
        rfl
      obtain ⟨stops, -, way, further⟩ := ih (place + 1) passed after (seen ++ [.interceptor place])
      rw [execute_of_proceed proceeded, execute_of_proceed decided, further, List.append_assoc]
      exact ⟨.interceptor place :: stops, List.cons_ne_nil _ _,
        List.cons_prefix_cons.mpr ⟨rfl, way⟩, rfl⟩

end Telemetry.Client
