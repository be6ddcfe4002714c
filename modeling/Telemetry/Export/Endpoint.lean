import Telemetry.Settings.Basic
import Telemetry.Url.Reader
/-!
Where time series are sent: a path on the server that the settings name, for those who have a key.
-/
namespace Telemetry.Series

/-- The path that takes series. -/
def path : String := "/api/v1/series"

/-- An address without the slashes at its end. -/
def withoutEndSlashes (uri : String) : String :=
  String.ofList (uri.toList.reverse.dropWhile (· = '/')).reverse

/-- The address of the server's path. -/
def endpointOf (uri : String) : Except Url.Fault Url :=
  match Url.read (withoutEndSlashes uri) none with
  | .error fault => .error fault
  | .ok server => Url.read path (some server)

/-- The address that series are sent to (`DatadogExporter::new`). -/
def endpoint (settings : DatadogSettings) : Except Error Url :=
  match settings.apiKey with
  | none => .error (.missingSetting "datadog.api-key")
  | some _ => match endpointOf settings.uri with
    | .ok url => .ok url
    | .error fault => .error (.invalidSetting "datadog.uri" fault.message)

end Telemetry.Series
