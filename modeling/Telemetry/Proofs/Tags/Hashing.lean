import Telemetry.Proofs.OrderedMap
import Telemetry.Proofs.Xdr.Reader
import Telemetry.Tags

/-! What a tag set is hashed by: how many tags there are, and then each key and each value as bytes,
with a byte behind them that occurs in no text. So the bytes alone, without the bounds between them,
say which tags there are. -/
namespace Telemetry.Tags

/-- Ends a text; no text has this byte. -/
def textEnd : UInt8 := 0xff

/-- The pieces of a text that a hasher takes in. -/
def textPieces (text : String) : List (List UInt8) := [text.toUTF8.toList, [textEnd]]

/-- A number as eight bytes. -/
def lengthBytes (n : Nat) : List UInt8 := (List.range 8).map fun place => .ofNat (n / 256 ^ place)

/-- The pieces of a tag set that a hasher takes in (`Tags::hash`). -/
def pieces (tags : Tags) : List (List UInt8) :=
  lengthBytes tags.size :: tags.entries.flatMap fun pair => textPieces pair.1 ++ textPieces pair.2

/-- The keys and values of some tags as they are listed. -/
def texts (entries : List (String × String)) : List String :=
  entries.flatMap fun pair => [pair.1, pair.2]

private theorem ofNat_ne_textEnd {n : Nat} (small : n < 255) : UInt8.ofNat n ≠ textEnd := by
  intro same
  have value := congrArg UInt8.toNat same
  rw [UInt8.toNat_ofNat_of_lt' (Nat.lt_of_lt_of_le small (by decide))] at value
  exact absurd value (Nat.ne_of_lt small)

private theorem ne_textEnd_of_mem_utf8EncodeChar (c : Char) :
    ∀ byte ∈ String.utf8EncodeChar c, byte ≠ textEnd := by
  rw [String.utf8EncodeChar]
  -- A first byte begins with at most four ones, and any further byte with a single one.
  split
  · simp only [List.forall_mem_cons]
    exact ⟨ofNat_ne_textEnd (by omega), List.forall_mem_nil _⟩
  · split
    · simp only [List.forall_mem_cons]
      exact ⟨ofNat_ne_textEnd (by omega), ofNat_ne_textEnd (by omega), List.forall_mem_nil _⟩
    · split <;> simp only [List.forall_mem_cons]
      · exact ⟨ofNat_ne_textEnd (by omega), ofNat_ne_textEnd (by omega),
          ofNat_ne_textEnd (by omega), List.forall_mem_nil _⟩
      · exact ⟨ofNat_ne_textEnd (by omega), ofNat_ne_textEnd (by omega),
          ofNat_ne_textEnd (by omega), ofNat_ne_textEnd (by omega), List.forall_mem_nil _⟩

private theorem textEnd_not_mem (text : String) : textEnd ∉ text.toUTF8.toList := by
  have bytes : text.toUTF8.toList = text.toList.flatMap String.utf8EncodeChar := by
    rw [Xdr.toList_eq, String.toUTF8_eq_toByteArray, ← String.utf8Encode_toList, List.utf8Encode,
      List.toList_data_toByteArray]
  rw [bytes, List.mem_flatMap]
  rintro ⟨c, -, member⟩
  exact ne_textEnd_of_mem_utf8EncodeChar c textEnd member rfl

/-- Bytes that are ended come apart from what follows. -/
private theorem append_end_inj {first second rest more : List UInt8} (free : textEnd ∉ first)
    (freeToo : textEnd ∉ second) (same : first ++ textEnd :: rest = second ++ textEnd :: more) :
    first = second ∧ rest = more := by
  induction first generalizing second with
  | nil =>
    cases second with
    | nil => exact ⟨rfl, (List.cons.inj same).2⟩
    | cons byte tail =>
      cases (List.cons.inj same).1
      exact absurd List.mem_cons_self freeToo
  | cons byte tail ih =>
    cases second with
    | nil =>
      cases (List.cons.inj same).1
      exact absurd List.mem_cons_self free
    | cons other tailToo =>
      obtain ⟨rfl, sameTail⟩ := List.cons.inj same
      obtain ⟨rfl, sameRest⟩ := ih (List.not_mem_of_not_mem_cons free)
        (List.not_mem_of_not_mem_cons freeToo) sameTail
      exact ⟨rfl, sameRest⟩

private theorem toUTF8_inj {first second : String}
    (same : first.toUTF8.toList = second.toUTF8.toList) : first = second := by
  have read := Xdr.fromUTF8?_toUTF8 first
  rw [same, Xdr.fromUTF8?_toUTF8] at read
  exact (Option.some.inj read).symm

private theorem texts_inj_of_bytes {first second : List String}
    (same : (first.flatMap textPieces).flatten = (second.flatMap textPieces).flatten) :
    first = second := by
  induction first generalizing second with
  | nil =>
    cases second with
    | nil => rfl
    | cons text rest => simp [textPieces] at same
  | cons text rest ih =>
    cases second with
    | nil => simp [textPieces] at same
    | cons other more =>
      have bytes : text.toUTF8.toList ++ textEnd :: (rest.flatMap textPieces).flatten =
          other.toUTF8.toList ++ textEnd :: (more.flatMap textPieces).flatten := by
        simpa [textPieces] using same
      obtain ⟨sameText, sameRest⟩ :=
        append_end_inj (textEnd_not_mem text) (textEnd_not_mem other) bytes
      rw [toUTF8_inj sameText, ih sameRest]

private theorem texts_injective {first second : List (String × String)}
    (same : texts first = texts second) : first = second := by
  induction first generalizing second with
  | nil =>
    cases second with
    | nil => rfl
    | cons pair rest => cases same
  | cons pair rest ih =>
    cases second with
    | nil => cases same
    | cons other more =>
      simp only [texts, List.flatMap_cons, List.cons_append, List.nil_append, List.cons.injEq] at same
      rw [ih same.2.2, Prod.ext same.1 same.2.1]

/-- The bytes that tag sets are hashed by are the same only of the same tags. -/
theorem eq_of_bytes {left right : Tags} (same : left.pieces.flatten = right.pieces.flatten) :
    left = right := by
  have listed (tags : Tags) : tags.pieces.flatten =
      lengthBytes tags.size ++ ((texts tags.entries).flatMap textPieces).flatten := by
    simp [pieces, texts, List.flatMap_assoc]
  have lengths (n : Nat) : (lengthBytes n).length = 8 := by simp [lengthBytes]
  rw [listed, listed] at same
  obtain ⟨-, bytes⟩ := List.append_inj same ((lengths _).trans (lengths _).symm)
  have entries : left.entries = right.entries := texts_injective (texts_inj_of_bytes bytes)
  cases left
  cases right
  cases entries
  rfl

end Telemetry.Tags
