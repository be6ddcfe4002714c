import Telemetry.Text.Split
/-!
Routing requests to handlers by method and path. Patterns have literal and captured segments; where
several fit a path the one with the earliest literal wins. It is the routing of `axum`, as far as it
shows in the routes that are timed.
-/
namespace Telemetry.Server

/-- The methods a route is for. -/
inductive Methods where
  | any
  | only (method : String)
deriving DecidableEq

/-- Whether a route is for a method. One for `GET` also serves `HEAD`. -/
def Methods.allows : Methods → String → Bool
  | any, _ => true
  | only method, asked => method = asked || (method = "GET" && asked = "HEAD")

/-- What a route leads to. -/
inductive Handler where
  /-- A handler of the application. -/
  | application
  /-- The page that shows all meters. -/
  | scrape
deriving DecidableEq

/-- A route. -/
structure RouteTo where
  pattern : String
  methods : Methods
  handler : Handler

/-- The routes of an application. -/
abbrev Router := List RouteTo

namespace Router

/-- The segments between slashes; each slash counts. -/
def segments (path : String) : List (List Char) := Text.splitOn '/' path.toList

/-- Whether a segment of a pattern is a capture. -/
def isCapture (segment : List Char) : Bool :=
  segment.head? = some '\x7b' && segment.getLast? = some '\x7d'

/-- Whether the segments of a path fit those of a pattern. -/
def fit : List (List Char) → List (List Char) → Bool
  | [], [] => true
  | segment :: pattern, part :: path =>
    (if isCapture segment then !part.isEmpty else segment = part) && fit pattern path
  | _, _ => false

/-- Whether a pattern comes before another: it has a literal where they first differ in that. -/
def precedes : List (List Char) → List (List Char) → Bool
  | a :: as, b :: bs =>
    match isCapture a, isCapture b with
    | false, true => true
    | true, false => false
    | _, _ => precedes as bs
  | _, _ => false

/-- The pattern that a path is routed by. -/
def pattern? (router : Router) (path : String) : Option String :=
  let fitting := router.filter fun route => fit (segments route.pattern) (segments path)
  fitting.foldl (fun best route =>
    match best with
    | none => some route.pattern
    | some pattern =>
      if precedes (segments route.pattern) (segments pattern) then some route.pattern
      else some pattern) none

/-- The handler of a method at a pattern. A route for that method comes before one for any. -/
def handler? (router : Router) (pattern method : String) : Option Handler :=
  let here : List RouteTo :=
    router.filter fun route => route.pattern = pattern && route.methods.allows method
  ((here.find? (·.methods ≠ .any)) <|> here.head?).map (·.handler)

end Router
end Telemetry.Server
