import Telemetry.Server.Router
import Telemetry.Server.Timing
import Telemetry.Session.Basic
/-!
A server in use: requests are begun, handled for as long as it takes, and finished or given up, with
registry steps between.
-/
namespace Telemetry.Server

/-- What serves requests. -/
inductive Service where
  /-- One handler for every path; no router tells which pattern was matched. -/
  | single
  | routed (router : Router)

/-- Where a request goes. -/
inductive Destination where
  | handler
  | scrape
  | answer (status : Nat)

/-- Where a request goes, and how its route is known. -/
def Service.route (service : Service) (method path : String) : Destination × Route.Target :=
  match service with
  | .single => (.handler, .path path)
  | .routed router =>
    match router.pattern? path with
    | none => (.answer 404, .path path)
    | some pattern =>
      match router.handler? pattern method with
      | none => (.answer 405, .pattern pattern)
      | some .application => (.handler, .pattern pattern)
      | some .scrape => (.scrape, .pattern pattern)

/-- What follows the scheme of an absolute request target. -/
def afterScheme? : List Char → Option (List Char)
  | [] => none
  | ':' :: '/' :: '/' :: rest => some rest
  | _ :: rest => afterScheme? rest

/-- The path of a request target. A target that is only a host has none, and one with a scheme has
at least a slash. -/
def pathOf (uri : String) : String :=
  let chars := uri.toList
  let ends (c : Char) : Bool := c = '?' || c = '#'
  if chars.head? = some '/' then String.ofList (chars.takeWhile (!ends ·))
  else if chars = ['*'] then uri
  else match afterScheme? chars with
    | none => ""
    | some rest =>
      let path := (rest.dropWhile fun c => c ≠ '/' && !ends c).takeWhile (!ends ·)
      if path.isEmpty then "/" else String.ofList path

/-- A name for the exception of a request. -/
inductive Tag where
  | name (name : String)
  | raised (raised : Raised)

/-- How a handler ends a request: it lets time pass, stores exception names, and answers or fails
with a fault and its text. -/
structure Ending where
  advance : Duration := .zero
  tags : List Tag := []
  status : Nat := 200
  fault : Option (Raised × String) := none

/-- An answer's content. -/
structure Content where
  type : Option String
  body : String

/-- A server in use. -/
structure Running where
  session : Session
  service : Service
  timing : Timing
  /-- Whether the scrape page has help lines. -/
  descriptions : Bool := true
  /-- The requests that are being handled, each with its timing if it is timed. -/
  requests : OrderedMap String (Option InFlight) := .empty

/-- A step. -/
inductive Step where
  | start (id uri method : String)
  | finish (id : String) (ending : Ending)
  | request (uri method : String) (ending : Ending)
  | cancel (id : String)
  | registry (step : Session.Step)

/-- The answer to a step. -/
inductive Answer where
  | running (timed : Bool)
  | completed (status : Nat) (content : Content)
  | failed (text : String)
  | cancelled
  | unknown
  | registry (answer : Session.Answer)

namespace Running

/-- The registry of a server. -/
def registry (running : Running) : Registry := running.session.registry

/-- Puts another registry in. -/
def withRegistry (running : Running) (registry : Registry) : Running :=
  { running with session := { running.session with registry } }

/-- The exception name that is stored after some tags (`ExceptionTagger::tag_with_exception`); only
a timed request stores any. -/
def stored (running : Running) (timed : Bool) (tags : List Tag) : Option String :=
  if timed then
    tags.getLast?.map fun
      | .name name => name
      | .raised raised => running.timing.faultNames.nameOf raised
  else none

/-- Ends a request as its handler wants. -/
def finish (running : Running) (flight : Option InFlight) (ending : Ending) : Running × Answer :=
  let registry := running.registry.advance ending.advance
  let outcome : Outcome Content := match ending.fault with
    | some (raised, _) => .failed raised
    | none => .answered ending.status ⟨none, ""⟩
  let registry := match flight with
    | none => registry
    | some flight =>
      running.timing.complete flight outcome (running.stored true ending.tags) registry
  (running.withRegistry registry, match ending.fault with
    | some (_, text) => .failed text
    | none => .completed ending.status ⟨none, ""⟩)

/-- The page that shows all meters (`PrometheusScrape::response`); only its head is asked for by
`HEAD`. -/
def scrape (running : Running) (method : String) (registry : Registry) : Content :=
  ⟨some Exposition.contentType,
   if method = "HEAD" then "" else Exposition.render registry.snapshot running.descriptions⟩

/-- Begins a request; gives its timing if a handler has it now, or its answer at once. -/
def start (running : Running) (uri method : String) :
    Running × (Option InFlight ⊕ Answer) :=
  let (destination, target) := running.service.route method (pathOf uri)
  let (flight, registry) := match running.timing.begin ⟨method, target⟩ running.registry with
    | none => (none, running.registry)
    | some (flight, registry) => (some flight, registry)
  let atOnce (status : Nat) (content : Content) : Running × (Option InFlight ⊕ Answer) :=
    let registry := match flight with
      | none => registry
      | some flight => running.timing.complete flight (.answered status content) none registry
    (running.withRegistry registry, .inr (.completed status content))
  match destination with
  | .handler => (running.withRegistry registry, .inl flight)
  | .scrape => atOnce 200 (running.scrape method registry)
  | .answer status => atOnce status ⟨none, ""⟩

/-- Gives up a request, if it is timed. -/
def giveUp (running : Running) (flight : Option InFlight) : Running :=
  match flight with
  | none => running
  | some flight => running.withRegistry (Timing.cancel flight running.registry)

/-- Takes a step. A request that is begun under the name of another one takes its place, and the
other one is given up. -/
def step (running : Running) : Step → Running × Answer
  | .start id uri method =>
    match running.start uri method with
    | (running, .inr answer) => (running, answer)
    | (running, .inl flight) =>
      let running := running.giveUp ((running.requests.get? id).join)
      ({ running with requests := running.requests.insert id flight }, .running flight.isSome)
  | .finish id ending =>
    match running.requests.get? id with
    | none => (running, .unknown)
    | some flight =>
      { running with requests := running.requests.erase id }.finish flight ending
  | .request uri method ending =>
    match running.start uri method with
    | (running, .inr answer) => (running, answer)
    | (running, .inl flight) => running.finish flight ending
  | .cancel id =>
    match running.requests.get? id with
    | none => (running, .unknown)
    | some flight =>
      ({ running with requests := running.requests.erase id }.giveUp flight, .cancelled)
  | .registry step =>
    let (session, answer) := running.session.step step
    ({ running with session }, .registry answer)

/-- Takes some steps, one after the other. -/
def run (running : Running) : List Step → List Answer
  | [] => []
  | step :: steps =>
    let (running, answer) := running.step step
    answer :: running.run steps

end Running
end Telemetry.Server
