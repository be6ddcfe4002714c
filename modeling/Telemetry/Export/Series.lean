import Telemetry.Export.Plaintext
import Telemetry.Json.Basic
/-!
One time series for each number, sent together as a document. The value of the host tag is the
series' host; the other tags are listed.
-/
namespace Telemetry

/-- A time series. -/
structure Series where
  metric : String
  /-- The seconds of each point and its value. -/
  points : List (Int × Binary64)
  host : Option String
  tags : List String
  kind : String

namespace Series

/-- A tag of a series. -/
def tagText (tag : String × String) : String := tag.1 ++ ":" ++ tag.2

/-- The series of one number. -/
def ofMeasurement (hostTag : String) (wallMillis : Int) (id : MeterId)
    (measurement : Measurement) : Series where
  metric := id.name ++ "." ++ measurement.statistic.suffix
  points := [(Plaintext.timestamp wallMillis, measurement.value)]
  host := id.tag? hostTag
  tags := (id.tags.entries.filter fun tag => tag.1 ≠ hostTag).map tagText
  kind := "gauge"

/-- The series of a snapshot (`build_series`). -/
def ofSnapshot (snapshot : Snapshot) (hostTag : String) (wallMillis : Int) : List Series :=
  snapshot.flatMap fun reading =>
    reading.measurements.map (ofMeasurement hostTag wallMillis reading.id)

/-- A point as a pair. -/
def pointJson (point : Int × Binary64) : Json := .array [.integer point.1, .number point.2]

/-- A series as a document; without a host the field is left out. -/
def toJson (series : Series) : Json :=
  .object ([("metric", .string series.metric), ("points", .array (series.points.map pointJson))] ++
    (series.host.map fun host => ("host", .string host)).toList ++
    [("tags", .array (series.tags.map .string)), ("type", .string series.kind)])

/-- The text of the document that carries some series (`payload`). -/
def payload (series : List Series) : String :=
  (Json.object [("series", .array (series.map toJson))]).render

end Series
end Telemetry
