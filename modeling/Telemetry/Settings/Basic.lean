import Telemetry.Error
import Telemetry.Settings.Value
/-!
The settings, each with its key and its default, read from any flat source of properties. Keys are
read in a fixed order, and the first one with an unacceptable value is the error.
-/
namespace Telemetry

/-- Settings of the scrape endpoint (`PrometheusConfig`). -/
structure PrometheusSettings where
  enabled : Bool := true
  path : String := "/prometheus"
  /-- Whether help lines are written. -/
  descriptions : Bool := true
deriving DecidableEq

/-- Settings of the series backend (`DatadogConfig`). -/
structure DatadogSettings where
  enabled : Bool := false
  apiKey : Option String := none
  uri : String := "https://app.datadoghq.com"
  hostTag : String := "instance"
  step : Duration := .ofSeconds 10
  /-- The most series in one request. -/
  batchSize : UInt64 := 10000
deriving DecidableEq

/-- Settings of the plaintext backend (`GraphiteConfig`). -/
structure GraphiteSettings where
  enabled : Bool := false
  host : String := "localhost"
  port : UInt16 := 2003
  step : Duration := .ofSeconds 10
deriving DecidableEq

/-- Settings of the backend that metrics are announced to (`GangliaConfig`). -/
structure GangliaSettings where
  enabled : Bool := false
  host : String := "localhost"
  port : UInt16 := 8649
  step : Duration := .ofSeconds 10
  ttl : UInt32 := 1
  tmax : UInt32 := 60
  dmax : UInt32 := 0
deriving DecidableEq

/-- All settings (`MetricsConfig`). -/
structure Settings where
  serverRequestsName : String := "http_server_requests"
  clientRequestsName : String := "http_client_requests"
  commonTags : Tags := .empty
  prometheus : PrometheusSettings := {}
  datadog : DatadogSettings := {}
  graphite : GraphiteSettings := {}
  ganglia : GangliaSettings := {}
deriving DecidableEq

/-- A source of properties (`PropertySource`). -/
abbrev Properties := String → Option String

/-- The environment variable that stands for a key (`EnvProperties::variable_name`). -/
def variableName (key : String) : String :=
  String.ofList (key.toList.map fun c => if c = '.' ∨ c = '-' then '_' else c.toUpper)

/-- Environment variables as a source of properties. -/
def Properties.ofVariables (value? : String → Option String) : Properties :=
  fun key => value? (variableName key)

namespace Properties

/-- A text without white space around it (`Props::string`). -/
def text (properties : Properties) (key default : String) : String :=
  match properties key with
  | none => default
  | some value => Text.trimmed value

/-- The name of a metric, which must not be empty (`Props::name`). -/
def name (properties : Properties) (key default : String) : Except Error String :=
  let name := properties.text key default
  if name.isEmpty then .error (.invalidSetting key "metric name must not be empty") else .ok name

/-- A flag (`Props::flag`). -/
def flag (properties : Properties) (key : String) (default : Bool) : Except Error Bool :=
  match properties key with
  | none => .ok default
  | some value => match readFlag? value with
    | some flag => .ok flag
    | none => .error (.invalidSetting key ("expected a boolean, got " ++ Text.quoted value))

/-- The time between two exports, which must not be zero (`Props::step`). -/
def step (properties : Properties) (key : String) (default : Duration) : Except Error Duration :=
  match properties key with
  | none => .ok default
  | some value => match Duration.read? value with
    | none => .error (.invalidSetting key ("expected a duration, got " ++ Text.quoted value))
    | some step =>
      if step = .zero then .error (.invalidSetting key "step must be greater than zero")
      else .ok step

/-- A number below a bound (`Props::number`). -/
def number (properties : Properties) (key : String) (bound default : Nat) : Except Error Nat :=
  match properties key with
  | none => .ok default
  | some value => match readNumber? bound (Text.trim value.toList) with
    | some n => .ok n
    | none => .error (.invalidSetting key ("expected a number, got " ++ Text.quoted value))

/-- A word of sixteen bits. -/
def word16 (properties : Properties) (key : String) (default : UInt16) : Except Error UInt16 :=
  (properties.number key (2 ^ 16) default.toNat).map .ofNat

/-- A word of thirty-two bits. -/
def word32 (properties : Properties) (key : String) (default : UInt32) : Except Error UInt32 :=
  (properties.number key (2 ^ 32) default.toNat).map .ofNat

/-- A word of sixty-four bits. -/
def word64 (properties : Properties) (key : String) (default : UInt64) : Except Error UInt64 :=
  (properties.number key (2 ^ 64) default.toNat).map .ofNat

/-- A property that is not blank, as it stands. -/
def nonBlank? (properties : Properties) (key : String) : Option String :=
  (properties key).filter fun value => !Text.isBlankText value

end Properties

/-- Reads the settings of the scrape endpoint. -/
def PrometheusSettings.read (properties : Properties) : Except Error PrometheusSettings := do
  let default : PrometheusSettings := {}
  let enabled ← properties.flag "prometheus.enabled" default.enabled
  let descriptions ← properties.flag "prometheus.descriptions" default.descriptions
  let path := properties.text "prometheus.path" default.path
  if path.toList.head? = some '/' then return { enabled, path, descriptions }
  else throw (.invalidSetting "prometheus.path" "must start with '/'")

/-- Reads the settings of the series backend. -/
def DatadogSettings.read (properties : Properties) : Except Error DatadogSettings := do
  let default : DatadogSettings := {}
  let enabled ← properties.flag "datadog.enabled" default.enabled
  let step ← properties.step "datadog.step" default.step
  let batchSize ← properties.word64 "datadog.batch-size" default.batchSize
  if batchSize = 0 then throw (.invalidSetting "datadog.batch-size" "must be at least 1")
  else return {
    enabled
    apiKey := properties.nonBlank? "datadog.api-key"
    uri := properties.text "datadog.uri" default.uri
    hostTag := properties.text "datadog.host-tag" default.hostTag
    step
    batchSize }

/-- Reads the settings of the plaintext backend. -/
def GraphiteSettings.read (properties : Properties) : Except Error GraphiteSettings := do
  let default : GraphiteSettings := {}
  let enabled ← properties.flag "graphite.enabled" default.enabled
  let port ← properties.word16 "graphite.port" default.port
  let step ← properties.step "graphite.step" default.step
  return { enabled, host := properties.text "graphite.host" default.host, port, step }

/-- Reads the settings of the backend that metrics are announced to. -/
def GangliaSettings.read (properties : Properties) : Except Error GangliaSettings := do
  let default : GangliaSettings := {}
  let enabled ← properties.flag "ganglia.enabled" default.enabled
  let port ← properties.word16 "ganglia.port" default.port
  let step ← properties.step "ganglia.step" default.step
  let ttl ← properties.word32 "ganglia.ttl" default.ttl
  let tmax ← properties.word32 "ganglia.tmax" default.tmax
  let dmax ← properties.word32 "ganglia.dmax" default.dmax
  return { enabled, host := properties.text "ganglia.host" default.host, port, step, ttl, tmax, dmax }

/-- The tags of a property that lists them; none if it is absent. -/
def Properties.tags (properties : Properties) (key : String) : Tags :=
  match properties key with
  | none => .empty
  | some value => .read value

/-- Reads all settings (`MetricsConfig::from_source`). -/
def Settings.read (properties : Properties) : Except Error Settings := do
  let default : Settings := {}
  let prometheus ← PrometheusSettings.read properties
  let datadog ← DatadogSettings.read properties
  let graphite ← GraphiteSettings.read properties
  let ganglia ← GangliaSettings.read properties
  let serverRequestsName ←
    properties.name "metrics.web.server-requests.name" default.serverRequestsName
  let clientRequestsName ←
    properties.name "metrics.web.client-requests.name" default.clientRequestsName
  return {
    serverRequestsName
    clientRequestsName
    commonTags := properties.tags "metrics.common-tags"
    prometheus
    datadog
    graphite
    ganglia }

end Telemetry
