import Telemetry.Export.Series
import Telemetry.Proofs.Json.ReadBack
import Telemetry.Proofs.OrderedMap
import Telemetry.Proofs.Plaintext.Lines

/-! The document of a snapshot, read back. Each number is an object of its own, in the order of the
numbers; the tag that names the host is taken out of the tags, and every other tag is listed once. -/
namespace Telemetry.Series

/-- An object says of a number what a series is to say: its metric, its one point, the host if the
meter has the tag for it, and the other tags in the order of their keys. -/
structure Shows (hostTag : String) (wallMillis : Int) (fields : List (String × Json))
    (number : MeterId × Measurement) : Prop where
  names : fields.map (·.1) = ["metric", "points"] ++
    (if (number.1.tags.get? hostTag).isSome then ["host"] else []) ++ ["tags", "type"]
  metric : fields.lookup "metric" =
    some (.string (number.1.name ++ "." ++ number.2.statistic.suffix))
  /-- The point has the second that the wall time falls into, and the value or nothing. -/
  points : ∃ t : Int, 1000 * t ≤ wallMillis ∧ wallMillis < 1000 * t + 1000 ∧
    fields.lookup "points" = some (.array [.array [.integer t,
      if number.2.value.isFinite then .number number.2.value else .null]])
  host : fields.lookup "host" = (number.1.tags.get? hostTag).map .string
  tags : ∃ sent : List (String × String), sent.Pairwise (·.1 < ·.1) ∧
    (∀ key value, (key, value) ∈ sent ↔ key ≠ hostTag ∧ number.1.tags.get? key = some value) ∧
    fields.lookup "tags" =
      some (.array (sent.map fun tag => .string (tag.1 ++ ":" ++ tag.2)))
  type : fields.lookup "type" = some (.string "gauge")

/-- The fields of a series as they are read. -/
def fields (series : Series) : List (String × Json) :=
  [("metric", .string series.metric),
    ("points", .array (series.points.map fun point =>
      .array [.integer point.1, Json.settledNumber point.2]))] ++
  (series.host.map fun host => ("host", .string host)).toList ++
  [("tags", .array (series.tags.map .string)), ("type", .string series.kind)]

private theorem settled_toJson (series : Series) :
    (toJson series).settled = .object (fields series) := by
  have strings (texts : List String) :
      Json.settledItems (texts.map .string) = texts.map .string := by
    rw [Json.settledItems_eq, List.map_map]
    rfl
  have points (points : List (Int × Binary64)) :
      Json.settledItems (points.map pointJson) = points.map fun point =>
        .array [.integer point.1, Json.settledNumber point.2] := by
    rw [Json.settledItems_eq, List.map_map]
    rfl
  cases host : series.host <;>
    simp [toJson, fields, host, Json.settled, Json.settledFields, strings, points]

/-- The tags that are listed are all but the one for the host. -/
theorem mem_listed_iff (tags : Tags) (hostTag key value : String) :
    (key, value) ∈ tags.entries.filter (fun tag => tag.1 ≠ hostTag) ↔
      key ≠ hostTag ∧ tags.get? key = some value := by
  rw [List.mem_filter, OrderedMap.get?_eq_some_iff, decide_eq_true_eq, and_comm]

private theorem names_fields (series : Series) : (fields series).map (·.1) =
    ["metric", "points"] ++ (if series.host.isSome then ["host"] else []) ++ ["tags", "type"] := by
  cases host : series.host <;> simp [fields, host]

/-- The fields that stand behind the place of the host. -/
theorem lookup_fields (series : Series) :
    (fields series).lookup "host" = series.host.map .string ∧
      (fields series).lookup "tags" = some (.array (series.tags.map .string)) ∧
      (fields series).lookup "type" = some (.string series.kind) := by
  cases host : series.host <;> simp [fields, host, List.lookup_cons]

private theorem fields_show (hostTag : String) (wallMillis : Int) (number : MeterId × Measurement) :
    Shows hostTag wallMillis (fields (ofMeasurement hostTag wallMillis number.1 number.2)) number where
  names := names_fields _
  metric := rfl
  points := by
    obtain ⟨begun, unfinished⟩ := Plaintext.timestamp_spec wallMillis
    exact ⟨Plaintext.timestamp wallMillis, begun, unfinished, rfl⟩
  host := (lookup_fields _).1
  tags := by
    refine ⟨number.1.tags.entries.filter fun tag => tag.1 ≠ hostTag, ?_, mem_listed_iff _ hostTag, ?_⟩
    · exact (number.1.tags.ascending.imp compare_lt_iff.mp).filter _
    · rw [(lookup_fields _).2.1, ofMeasurement, List.map_map]
      rfl
  type := (lookup_fields _).2.2

/-- **The document of a snapshot reads back as the snapshot**: one object for each number of each
meter, in their order, whatever names and tags hold and whenever it is. -/
theorem payload_reads_back (snapshot : Snapshot) (hostTag : String) (wallMillis : Int) :
    ∃ elements : List (List (String × Json)),
      Json.read? (payload (ofSnapshot snapshot hostTag wallMillis)) =
        some (.object [("series", .array (elements.map .object))]) ∧
      List.Forall₂ (Shows hostTag wallMillis) elements (numbers snapshot) := by
  refine ⟨(ofSnapshot snapshot hostTag wallMillis).map fields, ?_, ?_⟩
  · have settled (series : List Series) : Json.settledItems (series.map toJson) =
        (series.map fields).map .object := by
      rw [Json.settledItems_eq, List.map_map, List.map_map]
      exact List.map_congr_left fun one _ => settled_toJson one
    rw [payload, Json.read?_render, Json.settled, Json.settledFields, Json.settledFields,
      Json.settled, settled]
  · rw [ofSnapshot, flatMap_measurements, List.map_map]
    exact List.forall₂_map_left_iff.mpr (List.forall₂_same.mpr fun number _ =>
      fields_show hostTag wallMillis number)

end Telemetry.Series
