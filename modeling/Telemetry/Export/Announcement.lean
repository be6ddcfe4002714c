import Telemetry.Export.Path
import Telemetry.Export.Xdr
/-!
A number is announced by two packets: one describes the metric, the other carries its value as text.
-/
namespace Telemetry.Announcement

/-- Marks a packet that describes a metric in full. -/
def metadataMark : UInt32 := 128

/-- Marks a packet whose value is a text. -/
def valueMark : UInt32 := 133

/-- Says that a metric may go up and down. -/
def slopeBoth : UInt32 := 3

/-- How long a metric stays known: the most seconds between two values, and the seconds after
which a silent metric is forgotten. -/
structure Lifetime where
  tmax : UInt32
  dmax : UInt32
deriving DecidableEq

/-- The packet that describes a metric of doubles (`metadata_packet`). -/
def metadata (host name group : String) (lifetime : Lifetime) : List UInt8 :=
  Xdr.word metadataMark ++ Xdr.string host ++ Xdr.string name ++ Xdr.word 0 ++
    Xdr.string "double" ++ Xdr.string name ++ Xdr.string "" ++ Xdr.word slopeBoth ++
    Xdr.word lifetime.tmax ++ Xdr.word lifetime.dmax ++ Xdr.word 1 ++ Xdr.string "GROUP" ++
    Xdr.string group

/-- The packet that carries a value (`value_packet`). -/
def value (host name : String) (value : Binary64) : List UInt8 :=
  Xdr.word valueMark ++ Xdr.string host ++ Xdr.string name ++ Xdr.word 0 ++ Xdr.string "%s" ++
    Xdr.string (Decimal.plain.write value)

/-- The two packets of one number. -/
structure Packets where
  metadata : List UInt8
  value : List UInt8

/-- The packets of a snapshot, two for each number; a meter's name is its group. -/
def packets (snapshot : Snapshot) (host : String) (lifetime : Lifetime) : List Packets :=
  snapshot.flatMap fun reading => reading.measurements.map fun measurement =>
    let name := Path.name reading.id measurement.statistic
    ⟨metadata host name reading.id.name lifetime, Announcement.value host name measurement.value⟩

end Telemetry.Announcement
