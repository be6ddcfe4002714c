import Telemetry.Client.Factory
import Telemetry.Session.Basic
/-!
A client in use, on a transport that gives prepared replies. Interceptors and the transport tell in
a log what they do.
-/
namespace Telemetry.Client

/-- What is told in the log. -/
inductive Note where
  | enter (label : String)
  | leave (label : String)
  | sent (request : Request)

/-- A prepared reply: after some time an answer, or a failure. -/
structure Reply where
  advance : Duration := .zero
  status : Nat := 200
  body : List UInt8 := []
  failure : Option String := none

/-- What the transport and the interceptors use. -/
structure Desk where
  log : List Note := []
  replies : List Reply := []

/-- Writes into the log. -/
def Surroundings.note (surroundings : Surroundings Desk) (note : Note) : Surroundings Desk :=
  { surroundings with
    world := { surroundings.world with log := surroundings.world.log ++ [note] } }

/-- Lets time pass. -/
def Surroundings.advance {ω : Type} (surroundings : Surroundings ω) (amount : Duration) :
    Surroundings ω :=
  { surroundings with registry := surroundings.registry.advance amount }

/-- Gives the next reply; when there is none left, the usual one. -/
def prepared : Transport Desk := fun request surroundings =>
  let surroundings := surroundings.note (.sent request)
  let reply := surroundings.world.replies.headD {}
  let surroundings :=
    { surroundings with
      world := { surroundings.world with replies := surroundings.world.replies.tail } }
  (match reply.failure with
    | some explanation => .error (.transport explanation)
    | none => .ok ⟨reply.status, reply.body⟩, surroundings.advance reply.advance)

/-- A transport that reaches nothing. -/
def disconnected : Transport Desk := fun _ surroundings =>
  (.error (.transport "unreachable"), surroundings)

/-- An interceptor that is described by what it does. -/
structure Script where
  label : String
  advance : Duration := .zero
  method : Option String := none
  template : Option String := none
  /-- It fails instead of passing the request on. -/
  failure : Option String := none
  /-- It answers with a status instead of passing the request on. -/
  answer : Option Nat := none
  /-- It replaces the status of the answer. -/
  status : Option Nat := none
  /-- It answers when there is none. -/
  swallow : Bool := false

namespace Script

/-- The request as it is passed on. -/
def change (script : Script) (request : Request) : Request :=
  { request with
    method := script.method.getD request.method
    template := script.template <|> request.template }

/-- What is made of the outcome. -/
def settle (script : Script) (outcome : Outcome) : Outcome :=
  match outcome with
  | .ok response => .ok { response with status := script.status.getD response.status }
  | .error failure =>
    if script.swallow then .ok ⟨200, "swallowed".toUTF8.toList⟩ else .error failure

/-- Does what is described. -/
def interceptor (script : Script) : Interceptor Desk := fun request surroundings =>
  let surroundings := (surroundings.note (.enter script.label)).advance script.advance
  let decision : Decision Desk := match script.failure, script.answer with
    | some explanation, _ => .answer (.error (.transport explanation))
    | none, some status => .answer (.ok ⟨status, script.label.toUTF8.toList⟩)
    | none, none =>
      .proceed (script.change request) fun outcome surroundings =>
        (script.settle outcome, surroundings.note (.leave script.label))
  (decision, surroundings)

end Script

/-- A client in use. -/
structure Running where
  client : RestClient Desk
  session : Session
  desk : Desk

/-- A step. -/
inductive Step where
  | getText (template : String) (values : List String)
  | build (method template : String) (values : List String)
  | send (method template : String) (values : List String) (body : List UInt8)
  | exchange (method url : String) (template : Option String) (body : List UInt8)
  | registry (step : Session.Step)

/-- What a step of the client gives. -/
inductive Result where
  | text (text : String)
  | request (request : Request)
  | response (response : Response)
  | failed (failure : Failure)

/-- The answer to a step. -/
inductive Answer where
  | client (result : Result) (log : List Note)
  | registry (answer : Session.Answer)

/-- The result of an outcome. -/
def Result.ofOutcome : Outcome → Result
  | .ok answered => .response answered
  | .error failure => .failed failure

namespace Running

/-- Uses the client; its log begins anew. -/
def act (running : Running) (action : Surroundings Desk → Result × Surroundings Desk) :
    Running × Answer :=
  let desk := { running.desk with log := [] }
  let (result, surroundings) := action ⟨running.session.registry, desk⟩
  let session := { running.session with registry := surroundings.registry }
  ({ running with session, desk := surroundings.world }, .client result surroundings.world.log)

/-- Sends a request, if there is one. -/
def sendAll (running : Running) (request : Except Failure Request) : Running × Answer :=
  running.act fun surroundings =>
    match request with
    | .error failure => (.failed failure, surroundings)
    | .ok request =>
      let (outcome, surroundings) := running.client.exchange request surroundings
      (.ofOutcome outcome, surroundings)

/-- Takes a step. -/
def step (running : Running) : Step → Running × Answer
  | .getText template values =>
    running.act fun surroundings =>
      match running.client.getText template values surroundings with
      | (.ok text, surroundings) => (.text text, surroundings)
      | (.error failure, surroundings) => (.failed failure, surroundings)
  | .build method template values =>
    running.act fun surroundings =>
      (match running.client.request method template values with
        | .ok request => .request request
        | .error failure => .failed failure, surroundings)
  | .send method template values body =>
    running.sendAll ((running.client.request method template values).map ({ · with body }))
  | .exchange method url template body =>
    running.sendAll ((readUrl none url).map fun url => { method, url, template, body })
  | .registry step =>
    let (session, answer) := running.session.step step
    ({ running with session }, .registry answer)

/-- Takes some steps, one after the other. -/
def run (running : Running) : List Step → List Answer
  | [] => []
  | step :: steps =>
    let (running, answer) := running.step step
    answer :: running.run steps

end Running
end Telemetry.Client
