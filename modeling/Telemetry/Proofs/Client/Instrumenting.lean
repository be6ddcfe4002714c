import Mathlib.Data.List.Nodup
import Telemetry.Client.Factory

/-! Instrumenting clients. A factory looks for its own interceptor anywhere in the chain and puts it
in front if it is not there; so whichever factories come and come again, each stands in the chain
once, the later newcomer in front of the earlier, and the interceptors of the caller behind them
all. -/
namespace Telemetry.Client
variable {ω : Type} {applied order : List Factory} {factory : Factory} {client : RestClient ω}
  {interceptors : List (Interceptor ω)}

/-- When a factory was first applied: the place of the first one of its number. -/
def Factory.firstUse (factory : Factory) (applied : List Factory) : Nat :=
  applied.findIdx (·.number = factory.number)

/-- Factories from front to back: of those that were applied the first of each number, and of two of
them the one that came later in front. -/
structure FrontToBack (applied order : List Factory) : Prop where
  first : ∀ factory, factory ∈ order ↔ applied.find? (·.number = factory.number) = some factory
  later : order.Pairwise fun front behind => behind.firstUse applied < front.firstUse applied

namespace FrontToBack

theorem nil : FrontToBack [] [] := ⟨fun _ => by simp, .nil⟩

/-- A factory stands in the order exactly if one of its number was applied. -/
theorem exists_mem_iff (stands : FrontToBack applied order) (number : Nat) :
    (∃ other ∈ order, other.number = number) ↔ ∃ other ∈ applied, other.number = number := by
  constructor
  · rintro ⟨other, member, rfl⟩
    exact ⟨other, List.mem_of_find?_eq_some ((stands.first other).mp member), rfl⟩
  · rintro ⟨other, member, rfl⟩
    have found : (applied.find? (·.number = other.number)).isSome := by
      rw [List.find?_isSome]
      exact ⟨other, member, decide_eq_true rfl⟩
    obtain ⟨first, isFirst⟩ := Option.isSome_iff_exists.mp found
    have sameNumber : first.number = other.number := by simpa using List.find?_some isFirst
    exact ⟨first, (stands.first first).mpr (sameNumber ▸ isFirst), sameNumber⟩

/-- Whoever was applied was first applied at some moment. -/
theorem firstUse_lt (stands : FrontToBack applied order) (member : factory ∈ order) :
    factory.firstUse applied < applied.length := by
  refine List.findIdx_lt_length.mpr ⟨factory, ?_, decide_eq_true rfl⟩
  exact List.mem_of_find?_eq_some ((stands.first factory).mp member)

/-- What comes behind does not change when somebody was first applied. -/
theorem firstUse_append (stands : FrontToBack applied order) (member : factory ∈ order)
    (more : List Factory) : factory.firstUse (applied ++ more) = factory.firstUse applied := by
  have within := stands.firstUse_lt member
  rw [Factory.firstUse] at within ⊢
  rw [List.findIdx_append, if_pos within, Factory.firstUse]

theorem later_append (stands : FrontToBack applied order) (more : List Factory) :
    order.Pairwise fun front behind =>
      behind.firstUse (applied ++ more) < front.firstUse (applied ++ more) := by
  refine stands.later.imp_of_mem fun isFront isBehind later => ?_
  rw [stands.firstUse_append isFront, stands.firstUse_append isBehind]
  exact later

/-- One that was applied before stays where it is. -/
theorem again (stands : FrontToBack applied order)
    (known : ∃ other ∈ applied, other.number = factory.number) :
    FrontToBack (applied ++ [factory]) order := by
  refine ⟨fun other => ?_, stands.later_append [factory]⟩
  rw [stands.first, List.find?_append]
  by_cases sameNumber : other.number = factory.number
  · obtain ⟨one, member, number⟩ := known
    have found : (applied.find? (·.number = other.number)).isSome := by
      rw [List.find?_isSome]
      exact ⟨one, member, decide_eq_true (number.trans sameNumber.symm)⟩
    rw [Option.or_of_isSome found]
  · have apart : [factory].find? (·.number = other.number) = none := by
      simp [Ne.symm sameNumber]
    rw [apart, Option.or_none]

/-- One that is new goes in front. -/
theorem newcomer (stands : FrontToBack applied order)
    (unknown : ¬ ∃ other ∈ applied, other.number = factory.number) :
    FrontToBack (applied ++ [factory]) (factory :: order) := by
  have notFound : applied.find? (·.number = factory.number) = none := by
    rw [List.find?_eq_none]
    exact fun other member same => unknown ⟨other, member, of_decide_eq_true same⟩
  constructor
  · intro other
    rw [List.mem_cons, stands.first, List.find?_append]
    by_cases sameNumber : other.number = factory.number
    · rw [sameNumber, notFound]
      simp [eq_comm]
    · have apart : other ≠ factory := fun same => sameNumber (congrArg Factory.number same)
      simp [apart, Ne.symm sameNumber]
  · refine List.pairwise_cons.mpr ⟨fun behind member => ?_, stands.later_append [factory]⟩
    have now : factory.firstUse (applied ++ [factory]) = applied.length := by
      rw [Factory.firstUse, List.findIdx_append, List.findIdx_eq_length_of_false]
      · simp
      · exact fun other isApplied => decide_eq_false fun same => unknown ⟨other, isApplied, same⟩
    rw [stands.firstUse_append member, now]
    exact stands.firstUse_lt member

end FrontToBack

/-! ## The chain -/

/-- The chain of some factories in front of interceptors of a caller. -/
def chain (order : List Factory) (interceptors : List (Interceptor ω)) : List (Link ω) :=
  order.map .metrics ++ interceptors.map .custom

private theorem any_isOf_chain (order : List Factory) (interceptors : List (Interceptor ω)) :
    (chain order interceptors).any (Link.isOf factory) = true ↔
      ∃ other ∈ order, other.number = factory.number := by
  simp [chain, Link.isOf]

/-- No two factories of one number stand in the order. -/
theorem FrontToBack.nodup (stands : FrontToBack applied order) : (order.map (·.number)).Nodup := by
  rw [List.nodup_iff_pairwise_ne, List.pairwise_map]
  refine stands.later.imp fun later same => ?_
  rw [Factory.firstUse, Factory.firstUse, same] at later
  exact Nat.lt_irrefl _ later

/-- Whoever was applied stands in the chain once. -/
theorem FrontToBack.countP_chain (stands : FrontToBack applied order) (member : factory ∈ applied)
    (interceptors : List (Interceptor ω)) :
    (chain order interceptors).countP (Link.isOf factory) = 1 := by
  obtain ⟨other, isIn, number⟩ :=
    (stands.exists_mem_iff factory.number).mpr ⟨factory, member, rfl⟩
  have once : (order.map (·.number)).count factory.number = 1 :=
    List.count_eq_one_of_mem stands.nodup (List.mem_map.mpr ⟨other, isIn, number⟩)
  have custom : (interceptors.map Link.custom).countP (Link.isOf factory) = 0 := by
    simp [Link.isOf]
  rw [chain, List.countP_append, custom, Nat.add_zero, List.countP_map, ← once,
    List.count_eq_countP, List.countP_map]
  rfl

/-- Instrumenting a client keeps its chain, or puts a newcomer in front of it. -/
theorem FrontToBack.instrument (stands : FrontToBack applied order)
    (links : client.links = chain order interceptors) (factory : Factory) :
    ∃ next, FrontToBack (applied ++ [factory]) next ∧
      factory.instrument client = { client with links := chain next interceptors } := by
  rw [Factory.instrument, links]
  by_cases known : ∃ other ∈ order, other.number = factory.number
  · rw [if_pos ((any_isOf_chain order interceptors).mpr known)]
    exact ⟨order, stands.again ((stands.exists_mem_iff _).mp known), by rw [← links]⟩
  · rw [if_neg (mt (any_isOf_chain order interceptors).mp known)]
    exact ⟨factory :: order, stands.newcomer (mt (stands.exists_mem_iff _).mpr known), rfl⟩

/-- Whatever is applied to a client, one factory after the other. -/
def RestClient.instrumentAll (client : RestClient ω) (applied : List Factory) : RestClient ω :=
  applied.foldl (fun client factory => factory.instrument client) client

theorem FrontToBack.instrumentAll (stands : FrontToBack applied order)
    (links : client.links = chain order interceptors) (more : List Factory) :
    ∃ final, FrontToBack (applied ++ more) final ∧
      client.instrumentAll more = { client with links := chain final interceptors } := by
  induction more generalizing applied order client with
  | nil => exact ⟨order, by rwa [List.append_nil], by rw [← links]; rfl⟩
  | cons factory rest ih =>
    obtain ⟨next, standsNext, step⟩ := stands.instrument links factory
    have linksNext : (factory.instrument client).links = chain next interceptors := by rw [step]
    obtain ⟨final, standsFinal, run⟩ := ih standsNext linksNext
    refine ⟨final, by rwa [List.append_assoc] at standsFinal, ?_⟩
    rw [RestClient.instrumentAll, List.foldl_cons, ← RestClient.instrumentAll, run, step]

/-! ## Builders -/

/-- A call to a builder. -/
inductive Builder.Call (ω : Type) where
  | interceptor (interceptor : Interceptor ω)
  | relativeTo (baseUrl : Url)

/-- The builder after a call. -/
def Builder.called (builder : Builder ω) : Builder.Call ω → Builder ω
  | .interceptor added => builder.interceptor added
  | .relativeTo baseUrl => builder.relativeTo baseUrl

/-- The interceptor that a call adds. -/
def Builder.Call.interceptor? : Builder.Call ω → Option (Interceptor ω)
  | .interceptor added => some added
  | .relativeTo _ => none

/-- However calls are mixed, the interceptors are kept in their order, and the rest of what a client
needs apart. -/
theorem Builder.called_all (builder : Builder ω) (calls : List (Builder.Call ω)) :
    (calls.foldl Builder.called builder).interceptors =
        builder.interceptors ++ calls.filterMap Builder.Call.interceptor? ∧
      (calls.foldl Builder.called builder).factory = builder.factory ∧
      (calls.foldl Builder.called builder).transport = builder.transport := by
  induction calls generalizing builder with
  | nil => simp
  | cons call rest ih =>
    obtain ⟨kept, factory, transport⟩ := ih (builder.called call)
    rw [List.foldl_cons, kept, factory, transport]
    cases call with
    | interceptor added =>
      have one : (Call.interceptor added :: rest).filterMap Call.interceptor? =
          added :: rest.filterMap Call.interceptor? := List.filterMap_cons_some rfl
      rw [one]
      exact ⟨List.append_assoc _ _ _, rfl, rfl⟩
    | relativeTo baseUrl =>
      have none : (Call.relativeTo baseUrl :: rest).filterMap Call.interceptor? =
          rest.filterMap Call.interceptor? := List.filterMap_cons_none rfl
      rw [none]
      exact ⟨rfl, rfl, rfl⟩

private theorem RestClient.build_eq (own : Option Factory) (transport : Transport ω)
    (interceptors : List (Interceptor ω)) (baseUrl : Option Url) :
    RestClient.build own transport interceptors baseUrl =
      { transport, links := chain own.toList interceptors, baseUrl } := by
  cases own with
  | none => rfl
  | some factory =>
    have absent : (interceptors.map Link.custom).any (Link.isOf factory) = false := by
      simp [Link.isOf]
    simp [RestClient.build, Factory.instrument, absent, chain]

theorem FrontToBack.own (own : Option Factory) : FrontToBack own.toList own.toList := by
  cases own with
  | none => exact .nil
  | some factory => exact FrontToBack.nil.newcomer (by simp)

/-- **Instrumenting keeps the chain.** Whatever calls a builder gets, the client that it builds has
the interceptors of its caller in their order, and the factory that began the builder, if one did,
once in front of them. Whichever factories are applied then, as often as they may come again, the
chain is the factories that ever were, the latest newcomer first, and the interceptors of the caller
behind them; nothing else of the client is changed. Each of these factories stands in it once, so to
apply it again changes nothing. -/
theorem instrumenting_keeps_the_chain (transport : Transport ω) (own : Option Factory)
    (calls : List (Builder.Call ω)) (applied : List Factory) :
    let begun : Builder ω := match own with
      | none => RestClient.builder transport
      | some factory => factory.builder transport
    let built := (calls.foldl Builder.called begun).build
    let client := built.instrumentAll applied
    let interceptors := calls.filterMap Builder.Call.interceptor?
    (built.transport = transport ∧ built.links = chain own.toList interceptors) ∧
    (∃ order, FrontToBack (own.toList ++ applied) order ∧
      client = { built with links := chain order interceptors }) ∧
    ∀ factory ∈ own.toList ++ applied,
      client.links.countP (Link.isOf factory) = 1 ∧ factory.instrument client = client := by
  intro begun built client interceptors
  have begins : begun.interceptors = [] ∧ begun.factory = own ∧ begun.transport = transport := by
    cases own <;> exact ⟨rfl, rfl, rfl⟩
  obtain ⟨kept, sameFactory, sameTransport⟩ := begun.called_all calls
  rw [begins.1, List.nil_append] at kept
  have shape : built = ⟨transport, chain own.toList interceptors,
      (calls.foldl Builder.called begun).baseUrl⟩ := by
    change RestClient.build _ _ _ _ = _
    rw [kept, sameFactory, sameTransport, begins.2.1, begins.2.2, RestClient.build_eq]
  have links : built.links = chain own.toList interceptors := by rw [shape]
  obtain ⟨order, stands, run⟩ := (FrontToBack.own own).instrumentAll links applied
  refine ⟨⟨by rw [shape], links⟩, ⟨order, stands, run⟩, fun factory member => ?_⟩
  have linksAfter : client.links = chain order interceptors := congrArg RestClient.links run
  refine ⟨linksAfter ▸ stands.countP_chain member interceptors, ?_⟩
  have present : client.links.any (Link.isOf factory) = true := by
    rw [linksAfter, any_isOf_chain, stands.exists_mem_iff]
    exact ⟨factory, member, rfl⟩
  rw [Factory.instrument, if_pos present]

/-- A factory begins the builder, comes again between two others, and one of these comes twice. -/
theorem returning_factories_keep_their_places :
    let factory (number : Nat) : Factory := ⟨number, { name := "http_client_requests" }⟩
    let silent : Interceptor Unit := fun request surroundings =>
      (.proceed request fun outcome later => (outcome, later), surroundings)
    let offline : Transport Unit := fun _ surroundings =>
      (.error (.transport "offline"), surroundings)
    let calls : List (Builder.Call Unit) :=
      [.interceptor silent, .relativeTo { scheme := "http" }, .interceptor silent]
    let built := (calls.foldl Builder.called ((factory 7).builder offline)).build
    let client := built.instrumentAll [factory 3, factory 7, factory 5, factory 3]
    client.links = chain [factory 5, factory 3, factory 7] [silent, silent] ∧
      client.links.countP (Link.isOf (factory 3)) = 1 ∧ (factory 3).instrument client = client := by
  intro factory silent offline calls built client
  obtain ⟨-, -, once⟩ := instrumenting_keeps_the_chain offline (some (factory 7)) calls
    [factory 3, factory 7, factory 5, factory 3]
  exact ⟨rfl, once (factory 3) (by simp)⟩

end Telemetry.Client
