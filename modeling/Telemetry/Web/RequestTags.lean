import Telemetry.Tags
/-!
The tags of request timers.
-/
namespace Telemetry

/-- Gives the tags of completed requests (`WebTagsProvider`). -/
structure RequestTags where
  /-- By method, route template, status and exception. -/
  server : (method template status exception : String) → Tags
  /-- By method, template and status, where a request without an answer has no status. -/
  client : (method : String) → (template : Option String) → (status : Option Nat) → Tags

namespace RequestTags

/-- Stands for a tag without a value. -/
def none : String := "none"

/-- The status of a client request that was never answered. -/
def clientError : String := "CLIENT_ERROR"

/-- The usual tags (`DefaultWebTags`): `method`, `uri` and `status`, and for servers `exception`. -/
def default : RequestTags where
  server method template status exception :=
    .ofList [("method", method), ("uri", template), ("status", status), ("exception", exception)]
  client method template status :=
    .ofList [("method", method), ("uri", template.getD none),
      ("status", (status.map toString).getD clientError)]

end RequestTags
end Telemetry
