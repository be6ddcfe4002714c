import Telemetry.Route.Template
import Telemetry.Timed.Basic
/-!
The table of timed routes. Entries for the method of a request come before entries for every method,
and of each kind the earliest entry counts.
-/
namespace Telemetry.Route

/-- A timed route (`RouteEntry`); without a method it is for every one. -/
structure Entry (ε : Type) where
  method : Option String
  template : Template ε
  timings : List Timed

/-- Timed routes in the order in which they were added (`RouteTimings`). -/
abbrev Routes (ε : Type) := List (Entry ε)

/-- How the route of a request is known. -/
inductive Target where
  /-- By the pattern that a router matched. -/
  | pattern (pattern : String)
  | path (path : String)

variable {ε : Type} [Expressions ε]

/-- Whether an entry is for a target. -/
def Entry.isFor (entry : Entry ε) : Target → Bool
  | .pattern pattern => entry.template.pattern = pattern
  | .path path => entry.template.accepts path

namespace Routes

/-- Adds a route, if any of its descriptors has a name (`RouteTimings::insert`); the others are left
out. -/
def add (table : Routes ε) (method : Option String) (pattern : String) (timings : List Timed) :
    Except Error (Routes ε) :=
  (Template.read pattern).map fun template =>
    let named := timings.filter Timed.isNamed
    if named.isEmpty then table else table ++ [⟨method, template, named⟩]

/-- The entry for a request (`RouteTimings::lookup`). -/
def lookup (table : Routes ε) (method : String) (target : Target) : Option (Entry ε) :=
  (List.find? (fun entry => entry.method = some method && entry.isFor target) table) <|>
    List.find? (fun entry => entry.method = none && entry.isFor target) table

end Routes
end Telemetry.Route
