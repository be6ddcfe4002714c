import Telemetry.Proofs.Route.Agreement
import Telemetry.Server.Timing

/-! A request is timed the same way whether it comes with the pattern that a router matched or with
nothing but a path. -/
namespace Telemetry.Server
open Route

/-- **A path and the pattern that it resolves to agree**: whatever entry a path finds, its pattern
finds it too, and so a request is timed the same way under either. -/
theorem path_and_pattern_agree (timing : Timing) (built : Built timing.routes) {method path : String}
    {entry : Entry Pattern} (found : timing.routes.lookup method (.path path) = some entry) :
    timing.routes.lookup method (.pattern entry.template.pattern) = some entry ∧
      ∀ registry : Registry,
        timing.begin ⟨method, .pattern entry.template.pattern⟩ registry =
          timing.begin ⟨method, .path path⟩ registry := by
  have same := lookup_pattern_of_lookup_path built found
  refine ⟨same, fun registry => ?_⟩
  unfold Timing.begin
  rw [same, found]

/-- A route for all methods, one segment deep. -/
def orderRoute : Entry Pattern :=
  ⟨none, ⟨"/orders/\x7bid\x7d", [.literal "orders".toList, .capture none]⟩, [.serverRequests]⟩

/-- That route, and one for reading everything below. -/
def orders : Timing where
  routes := [orderRoute,
    ⟨some "GET", ⟨"/orders/\x7b*rest\x7d", [.literal "orders".toList, .catchAll]⟩, [.serverRequests]⟩]

private theorem orders_built : Built orders.routes := by
  have first : Routes.add [] none "/orders/\x7bid\x7d" [.serverRequests, .unnamed] =
      .ok [orderRoute] := rfl
  have second : Routes.add [orderRoute] (some "GET") "/orders/\x7b*rest\x7d" [.serverRequests] =
      .ok orders.routes := rfl
  exact .add (.add .empty first) second

theorem orders_agree :
    Built orders.routes ∧ orders.routes.lookup "PUT" (.path "/orders/7") = some orderRoute ∧
      orders.routes.lookup "PUT" (.pattern orderRoute.template.pattern) = some orderRoute ∧
      ∀ registry : Registry,
        orders.begin ⟨"PUT", .pattern orderRoute.template.pattern⟩ registry =
          orders.begin ⟨"PUT", .path "/orders/7"⟩ registry :=
  ⟨orders_built, rfl, path_and_pattern_agree orders orders_built rfl⟩

end Telemetry.Server
