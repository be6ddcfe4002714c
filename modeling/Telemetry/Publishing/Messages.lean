import Telemetry.Backend.Selection
import Telemetry.Export.Announcement
import Telemetry.Export.Series
/-!
What backends send for a snapshot, and sending it. Nothing is sent for a snapshot without readings,
so its publication succeeds whether or not the target can be reached. Connections are left out: what
becomes of a message is given.
-/
namespace Telemetry

/-- A message to a backend. -/
inductive Message where
  /-- A document with some series. -/
  | document (text : String)
  | lines (text : String)
  | packet (bytes : List UInt8)

/-- Divides a list into batches of at most `size` items, and of at least one. -/
def batches {α : Type} (size : Nat) (items : List α) : List (List α) :=
  if items.isEmpty then []
  else items.take (max size 1) :: batches size (items.drop (max size 1))
termination_by items.length
decreasing_by
  simp_all only [List.isEmpty_iff, List.length_drop]
  have : 0 < items.length := List.length_pos_iff.mpr ‹_›
  omega

/-- The messages of a publication (`PushExporter::publish`). -/
def Settings.messages (settings : Settings) (backend : Backend) (hostName : String)
    (snapshot : Snapshot) (wallMillis : Int) : List Message :=
  match backend with
  | .datadog =>
    (batches settings.datadog.batchSize.toNat
      (Series.ofSnapshot snapshot settings.datadog.hostTag wallMillis)).map
        fun batch => .document (Series.payload batch)
  | .graphite =>
    let text := Plaintext.render snapshot wallMillis
    if text.isEmpty then [] else [.lines text]
  | .ganglia =>
    (Announcement.packets snapshot hostName ⟨settings.ganglia.tmax, settings.ganglia.dmax⟩).flatMap
      fun packets => [.packet packets.metadata, .packet packets.value]
  | .prometheus | .simple => []

/-- Sends messages one after the other; the first that cannot be sent is the failure. -/
def Backend.send (backend : Backend) (transmit : Message → Except String Unit) :
    List Message → Except Error Unit
  | [] => .ok ()
  | message :: rest =>
    match transmit message with
    | .error explanation => .error (.publishing backend explanation)
    | .ok () => backend.send transmit rest

/-- A target that cannot be reached. -/
def unreachable (_ : Message) : Except String Unit := .error "unreachable"

end Telemetry
