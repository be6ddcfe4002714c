import Telemetry.Settings.Basic
/-!
Settings that an application puts together by itself. Common tags add up; everything else is replaced,
and nothing is checked.
-/
namespace Telemetry.Settings

/-- A call to whoever puts settings together (`MetricsConfigBuilder`). -/
inductive Call where
  | serverRequestsName (name : String)
  | clientRequestsName (name : String)
  | commonTags (tags : Tags)
  | prometheus (settings : PrometheusSettings)
  | datadog (settings : DatadogSettings)
  | graphite (settings : GraphiteSettings)
  | ganglia (settings : GangliaSettings)

/-- The settings after a call. -/
def called (settings : Settings) : Call → Settings
  | .serverRequestsName name => { settings with serverRequestsName := name }
  | .clientRequestsName name => { settings with clientRequestsName := name }
  | .commonTags tags => { settings with commonTags := settings.commonTags.merge tags }
  | .prometheus prometheus => { settings with prometheus }
  | .datadog datadog => { settings with datadog }
  | .graphite graphite => { settings with graphite }
  | .ganglia ganglia => { settings with ganglia }

/-- The settings that some calls put together (`MetricsConfigBuilder::build`). -/
def ofCalls (calls : List Call) : Settings := calls.foldl called {}

end Telemetry.Settings
