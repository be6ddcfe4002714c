import Telemetry.Export.Xdr

/-! A reader of the binary format. It is told what kinds of items to expect, finds each where the one
before it ended, and accepts nothing but zeros as padding; what the writer put together it takes apart
again, whatever follows. -/
namespace Telemetry.Xdr

/-- What a packet is made of. -/
inductive Item where
  | word (n : UInt32)
  | text (text : String)
deriving DecidableEq

/-- What kind of item to expect. -/
inductive Kind where
  | word
  | text
deriving DecidableEq

def Item.kind : Item → Kind
  | word _ => .word
  | text _ => .text

/-- An item as it is written. -/
def Item.bytes : Item → List UInt8
  | word n => Xdr.word n
  | text s => Xdr.string s

/-- A text whose length fits into a word. -/
def Item.Fits : Item → Prop
  | word _ => True
  | text s => s.utf8ByteSize < 2 ^ 32

/-- Four bytes as one number, the most significant first. -/
def readWord? : List UInt8 → Option (Nat × List UInt8)
  | a :: b :: c :: d :: rest =>
    some (((a.toNat * 256 + b.toNat) * 256 + c.toNat) * 256 + d.toNat, rest)
  | _ => none

/-- A text: its length, its bytes, and zeros to fill the last four. -/
def readText? (bytes : List UInt8) : Option (String × List UInt8) := do
  let (length, rest) ← readWord? bytes
  let padded := (length + 3) / 4 * 4
  let (block, rest) := (rest.take padded, rest.drop padded)
  if block.length = padded ∧ (block.drop length).all (· = 0) then
    return (← String.fromUTF8? (block.take length).toByteArray, rest)
  else none

/-- An item of a kind. -/
def readItem? (bytes : List UInt8) : Kind → Option (Item × List UInt8)
  | .word => (readWord? bytes).map fun (n, rest) => (.word (.ofNat n), rest)
  | .text => (readText? bytes).map fun (text, rest) => (.text text, rest)

/-- Items of given kinds, one after the other, with nothing behind the last. -/
def readItems? : List Kind → List UInt8 → Option (List Item)
  | [], [] => some []
  | [], _ :: _ => none
  | kind :: kinds, bytes => do
    let (item, rest) ← readItem? bytes kind
    return item :: (← readItems? kinds rest)

theorem readWord?_word (n : UInt32) (rest : List UInt8) :
    readWord? (word n ++ rest) = some (n.toNat, rest) := by
  have bound : n.toNat < 2 ^ 32 := n.toNat_lt
  simp only [word, List.cons_append, List.nil_append, readWord?, Option.some.injEq, Prod.mk.injEq,
    and_true, UInt32.toNat_toUInt8, UInt32.toNat_shiftRight, UInt32.reduceToNat,
    Nat.shiftRight_eq_div_pow, Nat.reduceMod, Nat.reducePow]
  omega

/-! ## Texts as bytes -/

private theorem toList_loop_eq (bytes : ByteArray) (i : Nat) (taken : List UInt8) :
    ByteArray.toList.loop bytes i taken = taken.reverse ++ bytes.data.toList.drop i := by
  fun_induction ByteArray.toList.loop bytes i taken with
  | case1 i taken more ih =>
    have inside : i < bytes.data.toList.length := by simpa using more
    rw [ih, List.drop_eq_getElem_cons inside]
    simp [ByteArray.get!, more]
  | case2 i taken done =>
    rw [List.drop_eq_nil_of_le (by simpa using Nat.le_of_not_lt done), List.append_nil]

theorem toList_eq (bytes : ByteArray) : bytes.toList = bytes.data.toList := by
  rw [ByteArray.toList, toList_loop_eq, List.reverse_nil, List.nil_append, List.drop_zero]

private theorem length_toUTF8 (text : String) : text.toUTF8.toList.length = text.utf8ByteSize := by
  rw [toList_eq]
  rfl

theorem fromUTF8?_toUTF8 (text : String) :
    String.fromUTF8? text.toUTF8.toList.toByteArray = some text := by
  have same : text.toUTF8.toList.toByteArray = text.toByteArray := by
    apply ByteArray.ext
    apply Array.ext'
    rw [List.toList_data_toByteArray, toList_eq]
    rfl
  rw [same, String.fromUTF8?, dif_pos text.isValidUTF8]
  rfl

/-- A text of few characters has few bytes. -/
theorem utf8ByteSize_le (text : String) : text.utf8ByteSize ≤ 4 * text.toList.length := by
  rw [← String.ofList_toList (s := text), String.toList_ofList]
  induction text.toList with
  | nil => exact Nat.le_refl 0
  | cons c rest ih =>
    have split : String.ofList (c :: rest) = String.singleton c ++ String.ofList rest := by simp
    have small := c.utf8Size_le_four
    rw [split, String.utf8ByteSize_append, String.utf8ByteSize_singleton, List.length_cons]
    omega

private theorem padding_spec (length : Nat) : length + padding length = (length + 3) / 4 * 4 := by
  unfold padding
  omega

/-- A block of the written length is taken apart into the text and the zeros behind it. -/
theorem readText?_block {text : String} {bytes : List UInt8} {n : UInt32}
    (utf8 : String.fromUTF8? bytes.toByteArray = some text) (length : n.toNat = bytes.length)
    (rest : List UInt8) :
    readText? (word n ++ (bytes ++ List.replicate (padding bytes.length) 0 ++ rest)) =
      some (text, rest) := by
  have size : (bytes ++ List.replicate (padding bytes.length) 0).length =
      (bytes.length + 3) / 4 * 4 := by
    rw [List.length_append, List.length_replicate, padding_spec]
  have zeros : (List.replicate (padding bytes.length) (0 : UInt8)).all (· = 0) = true := by
    simp
  rw [readText?, readWord?_word, length]
  simp only [Option.bind_eq_bind, Option.bind_some, ← size, List.take_left, List.drop_left, zeros,
    and_self, if_true, utf8, Option.pure_def]

private theorem readText?_string {text : String} (fits : text.utf8ByteSize < 2 ^ 32)
    (rest : List UInt8) : readText? (string text ++ rest) = some (text, rest) := by
  have size := length_toUTF8 text
  have small : min text.toUTF8.toList.length largestLength = text.toUTF8.toList.length :=
    Nat.min_eq_left (by rw [size, largestLength]; omega)
  have length : (UInt32.ofNat text.toUTF8.toList.length).toNat = text.toUTF8.toList.length :=
    Nat.mod_eq_of_lt (by rw [size]; exact fits)
  unfold string
  dsimp only
  rw [small, List.append_assoc, List.append_assoc, ← List.append_assoc text.toUTF8.toList]
  exact readText?_block (fromUTF8?_toUTF8 text) length rest

/-- An item that fits is read back, and what follows is left for the next. -/
theorem readItem?_bytes {item : Item} (fits : item.Fits) (rest : List UInt8) :
    readItem? (item.bytes ++ rest) item.kind = some (item, rest) := by
  cases item with
  | word n =>
    simp only [Item.bytes, Item.kind, readItem?, readWord?_word, Option.map_some, UInt32.ofNat_toNat]
  | text s => simp only [Item.bytes, Item.kind, readItem?, readText?_string fits, Option.map_some]

/-- **Items that fit are read back**, all of them and with nothing left over. -/
theorem readItems?_bytes {items : List Item} (fits : ∀ item ∈ items, item.Fits) :
    readItems? (items.map Item.kind) (items.flatMap Item.bytes) = some items := by
  induction items with
  | nil => rfl
  | cons item rest ih =>
    have further := ih fun other member => fits other (List.mem_cons_of_mem _ member)
    rw [List.map_cons, List.flatMap_cons, readItems?, readItem?_bytes (fits item List.mem_cons_self)]
    simp only [Option.bind_eq_bind, Option.bind_some, further, Option.pure_def]

/-! ## Lengths -/

private theorem four_dvd_length_string (text : String) : 4 ∣ (string text).length := by
  have words (n : UInt32) : (word n).length = 4 := rfl
  unfold string
  dsimp only
  rw [List.length_append, List.length_append, List.length_replicate, words, Nat.add_assoc,
    padding_spec]
  omega

/-- Every item ends where a unit of four bytes ends. -/
theorem four_dvd_length (items : List Item) : 4 ∣ (items.flatMap Item.bytes).length := by
  induction items with
  | nil => exact Nat.dvd_zero 4
  | cons item rest ih =>
    rw [List.flatMap_cons, List.length_append]
    refine Nat.dvd_add ?_ ih
    cases item with
    | word n => exact ⟨1, rfl⟩
    | text s => exact four_dvd_length_string s

end Telemetry.Xdr
