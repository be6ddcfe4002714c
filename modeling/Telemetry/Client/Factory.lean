import Telemetry.Client.Chain
/-!
Clients, and factories that instrument them. A factory has one metrics interceptor, which it puts in
front of a client's interceptors unless it is there already.
-/
namespace Telemetry.Client

/-- A factory (`ClientFactory`). Factories of one number are the same. -/
structure Factory where
  number : Nat
  metrics : Metrics

/-- A link of a client's chain. -/
inductive Link (ω : Type) where
  | metrics (factory : Factory)
  | custom (interceptor : Interceptor ω)

/-- What a link does. -/
def Link.interceptor {ω : Type} : Link ω → Interceptor ω
  | metrics factory => factory.metrics.interceptor
  | custom interceptor => interceptor

/-- Whether a link is the one of a factory. -/
def Link.isOf {ω : Type} (factory : Factory) : Link ω → Bool
  | metrics other => other.number = factory.number
  | custom _ => false

/-- A client. -/
structure RestClient (ω : Type) where
  transport : Transport ω
  links : List (Link ω) := []
  /-- What addresses are relative to. -/
  baseUrl : Option Url := none

/-- Puts the metrics interceptor of a factory in front, unless it is there
(`ClientFactory::instrument`). -/
def Factory.instrument {ω : Type} (factory : Factory) (client : RestClient ω) : RestClient ω :=
  if client.links.any (Link.isOf factory) then client
  else { client with links := .metrics factory :: client.links }

namespace RestClient
variable {ω : Type}

/-- The client of some interceptors; a factory instruments it. -/
def build (factory : Option Factory) (transport : Transport ω)
    (interceptors : List (Interceptor ω)) (baseUrl : Option Url) : RestClient ω :=
  let client : RestClient ω := { transport, links := interceptors.map .custom, baseUrl }
  match factory with
  | none => client
  | some factory => factory.instrument client

/-- The request for a template and its values (`RestClient::request`). -/
def request (client : RestClient ω) (method template : String) (values : List String) :
    Except Failure Request :=
  Request.ofTemplate client.baseUrl method template values

/-- Sends a request (`RestClient::exchange`). -/
def exchange (client : RestClient ω) (request : Request) (surroundings : Surroundings ω) :
    Outcome × Surroundings ω :=
  execute client.transport (client.links.map Link.interceptor) request surroundings

/-- Gets the text at an address (`RestClient::get_for_string`); a status that does not tell of
success is a failure. -/
def getText (client : RestClient ω) (template : String) (values : List String)
    (surroundings : Surroundings ω) : Except Failure String × Surroundings ω :=
  match client.request "GET" template values with
  | .error failure => (.error failure, surroundings)
  | .ok request =>
    match client.exchange request surroundings with
    | (.error failure, surroundings) => (.error failure, surroundings)
    | (.ok response, surroundings) =>
      if isSuccess response.status then
        (.ok (String.ofList (Text.decodeLossy response.body)), surroundings)
      else (.error (.status response.status request.url.text), surroundings)

end RestClient

/-- A client that is yet to be built (`RestClientBuilder`). -/
structure Builder (ω : Type) where
  transport : Transport ω
  interceptors : List (Interceptor ω) := []
  baseUrl : Option Url := none
  /-- Who instruments the client once it is there. -/
  factory : Option Factory := none

/-- Begins a client that nobody instruments (`RestClient::builder`). -/
def RestClient.builder {ω : Type} (transport : Transport ω) : Builder ω := { transport }

/-- Begins a client that the factory instruments (`ClientFactory::builder`). -/
def Factory.builder {ω : Type} (factory : Factory) (transport : Transport ω) : Builder ω :=
  { RestClient.builder transport with factory := some factory }

namespace Builder
variable {ω : Type}

/-- Adds an interceptor behind the others (`RestClientBuilder::interceptor`). -/
def interceptor (builder : Builder ω) (interceptor : Interceptor ω) : Builder ω :=
  { builder with interceptors := builder.interceptors ++ [interceptor] }

/-- Makes addresses relative to another one (`RestClientBuilder::base_url`). -/
def relativeTo (builder : Builder ω) (baseUrl : Url) : Builder ω :=
  { builder with baseUrl := some baseUrl }

/-- The client (`RestClientBuilder::build`). -/
def build (builder : Builder ω) : RestClient ω :=
  RestClient.build builder.factory builder.transport builder.interceptors builder.baseUrl

end Builder
end Telemetry.Client
