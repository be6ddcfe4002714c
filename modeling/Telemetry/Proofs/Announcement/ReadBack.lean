import Telemetry.Export.Announcement
import Telemetry.Proofs.Decimal.Range
import Telemetry.Proofs.Xdr.Reader

/-! Packets, read back. A receiver knows from the mark of a packet what follows; it finds what was
announced, and no two announcements look the same to it. -/
namespace Telemetry.Announcement
open Xdr (Item Kind)

/-- What a packet announces. -/
inductive Packet where
  | metadata (host name group : String) (lifetime : Lifetime)
  | value (host name : String) (value : Binary64)
deriving DecidableEq

/-- The packet as it is sent. -/
def Packet.bytes : Packet → List UInt8
  | metadata host name group lifetime => Announcement.metadata host name group lifetime
  | value host name v => Announcement.value host name v

/-- The fields of a packet in their order. -/
def Packet.fields : Packet → List Item
  | metadata host name group lifetime =>
    [.word 128, .text host, .text name, .word 0, .text "double", .text name, .text "", .word 3,
      .word lifetime.tmax, .word lifetime.dmax, .word 1, .text "GROUP", .text group]
  | value host name v =>
    [.word 133, .text host, .text name, .word 0, .text "%s", .text (Decimal.plain.write v)]

/-- Whether the lengths of all given texts fit into words. -/
def Packet.Short : Packet → Prop
  | metadata host name group _ =>
    host.utf8ByteSize < 2 ^ 32 ∧ name.utf8ByteSize < 2 ^ 32 ∧ group.utf8ByteSize < 2 ^ 32
  | value host name _ => host.utf8ByteSize < 2 ^ 32 ∧ name.utf8ByteSize < 2 ^ 32

/-- What follows a mark. -/
def shape? (mark : Nat) : Option (List Kind) :=
  if mark = 128 then
    some [.text, .text, .word, .text, .text, .text, .word, .word, .word, .word, .text, .text]
  else if mark = 133 then some [.text, .text, .word, .text, .text]
  else none

/-- Reads a packet to its end, whichever it is. -/
def receive? (bytes : List UInt8) : Option (List Item) := do
  let (mark, _) ← Xdr.readWord? bytes
  Xdr.readItems? (.word :: (← shape? mark)) bytes

private theorem bytes_eq (packet : Packet) : packet.bytes = packet.fields.flatMap Item.bytes := by
  cases packet <;>
    simp [Packet.bytes, Packet.fields, metadata, value, Item.bytes, metadataMark, valueMark, slopeBoth]

/-- The text of a number is never too long. -/
private theorem write_short (v : Binary64) : (Decimal.plain.write v).utf8ByteSize < 2 ^ 32 := by
  have short : (Decimal.plain.write v).toList.length ≤ 653 := by
    cases v with
    | finite negative quanta double => exact Decimal.length_write_finite_le Decimal.plain_positional
    | nan => decide
    | infinity negative => cases negative <;> decide
  have := Xdr.utf8ByteSize_le (Decimal.plain.write v)
  omega

private theorem fields_fit {packet : Packet} (short : packet.Short) :
    ∀ item ∈ packet.fields, item.Fits := by
  cases packet with
  | metadata host name group lifetime =>
    obtain ⟨host, name, group⟩ := short
    simp only [Packet.fields, List.forall_mem_cons, Item.Fits, true_and]
    exact ⟨host, name, by decide, name, by decide, by decide, group, List.forall_mem_nil _⟩
  | value host name v =>
    obtain ⟨host, name⟩ := short
    simp only [Packet.fields, List.forall_mem_cons, Item.Fits, true_and]
    exact ⟨host, name, by decide, write_short v, List.forall_mem_nil _⟩

/-- A packet begins with its mark, and the mark says of what kinds the rest is. -/
private theorem fields_shape (packet : Packet) :
    ∃ mark body, packet.fields = .word mark :: body ∧
      shape? mark.toNat = some (body.map Item.kind) := by
  cases packet with
  | metadata host name group lifetime => exact ⟨_, _, rfl, rfl⟩
  | value host name v => exact ⟨_, _, rfl, rfl⟩

private theorem receive?_bytes {packet : Packet} (short : packet.Short) :
    receive? packet.bytes = some packet.fields := by
  have read := Xdr.readItems?_bytes (fields_fit short)
  obtain ⟨mark, body, fields, shape⟩ := fields_shape packet
  rw [bytes_eq]
  rw [fields] at read ⊢
  rw [receive?, List.flatMap_cons, Item.bytes, Xdr.readWord?_word]
  simp only [Option.bind_eq_bind, Option.bind_some, shape]
  exact read

/-- Different announcements have different fields. -/
theorem fields_injective {a b : Packet} (same : a.fields = b.fields) : a = b := by
  cases a with
  | metadata host name group lifetime =>
    obtain ⟨tmax, dmax⟩ := lifetime
    cases b with
    | metadata host' name' group' lifetime' =>
      obtain ⟨tmax', dmax'⟩ := lifetime'
      simp only [Packet.fields, List.cons.injEq, Item.word.injEq, Item.text.injEq, true_and,
        and_true] at same
      obtain ⟨rfl, rfl, -, rfl, rfl, rfl⟩ := same
      rfl
    | value host' name' v => cases (List.cons.inj same).1
  | value host name v =>
    cases b with
    | metadata host' name' group' lifetime' => cases (List.cons.inj same).1
    | value host' name' v' =>
      simp only [Packet.fields, List.cons.injEq, Item.text.injEq, true_and, and_true] at same
      obtain ⟨rfl, rfl, texts⟩ := same
      rw [Decimal.write_injective Decimal.plain_positional texts]

/-- **Packets are read back.** Whatever host, name and group are called, as long as their lengths fit
into words, a receiver finds in a packet the fields that it was made of, each whole and nothing behind
the last; a packet is made of units of four bytes; and no two packets are equal unless everything that
they announce is. -/
theorem packets_read_back {packet : Packet} (short : packet.Short) :
    receive? packet.bytes = some packet.fields ∧ 4 ∣ packet.bytes.length ∧
      ∀ other : Packet, other.Short → other.bytes = packet.bytes → other = packet := by
  refine ⟨receive?_bytes short, ?_, fun other alsoShort same => ?_⟩
  · rw [bytes_eq]
    exact Xdr.four_dvd_length packet.fields
  · have own := receive?_bytes short
    rw [← same, receive?_bytes alsoShort] at own
    exact fields_injective (Option.some.inj own)

/-- The name of this host is longer in bytes than in characters. -/
theorem host_of_many_bytes_reads_back :
    let packet := Packet.metadata "café" "jobs.count" "" ⟨60, 0⟩
    packet.Short ∧ packet.bytes.length = 100 ∧ receive? packet.bytes = some packet.fields := by
  intro packet
  have short : packet.Short := ⟨by decide +kernel, by decide +kernel, by decide +kernel⟩
  exact ⟨short, by decide +kernel, (packets_read_back short).1⟩

end Telemetry.Announcement
