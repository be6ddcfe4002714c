import Telemetry.Proofs.Tags
import Telemetry.Proofs.Text.Blank
import Telemetry.Proofs.Text.Lines
import Telemetry.Settings.Value

/-! Lists of tags in settings. Pairs that are written with commas between are read back, each key and
each value without the white space around it. What says nothing of a tag may stand anywhere among them,
and the text of a tag set is such a list in braces. -/
namespace Telemetry.Tags

/-- A pair that can be written in a list: the key can be seen, the first equality sign is the one behind
it, and no comma is taken for an end. -/
structure Writable (pair : String × String) : Prop where
  seen : Text.trimmed pair.1 ≠ ""
  keyComma : ',' ∉ pair.1.toList
  keySign : '=' ∉ pair.1.toList
  valueComma : ',' ∉ pair.2.toList

instance (pair : String × String) : Decidable (Writable pair) :=
  decidable_of_iff (Text.trimmed pair.1 ≠ "" ∧ ',' ∉ pair.1.toList ∧ '=' ∉ pair.1.toList ∧
      ',' ∉ pair.2.toList)
    ⟨fun ⟨seen, keyComma, keySign, valueComma⟩ => ⟨seen, keyComma, keySign, valueComma⟩,
      fun ⟨seen, keyComma, keySign, valueComma⟩ => ⟨seen, keyComma, keySign, valueComma⟩⟩

/-- A pair without the white space around its key and around its value. -/
def trimmedPair (pair : String × String) : String × String :=
  (Text.trimmed pair.1, Text.trimmed pair.2)

/-- A piece of a list that says nothing of a tag: nothing in it is an equality sign, or there is only
white space before the first one. -/
inductive Idle (fragment : String) : Prop where
  | plain (whole : ',' ∉ fragment.toList) (unsigned : '=' ∉ fragment.toList)
  | keyless {front back : List Char} (whole : ',' ∉ fragment.toList)
      (shape : fragment.toList = front ++ '=' :: back) (blank : ∀ c ∈ front, Text.isBlank c = true)

/-- Some pieces with idle ones put in anywhere. -/
inductive Padded : List String → List String → Prop where
  | nil : Padded [] []
  | keep {pieces padded : List String} (piece : String) (rest : Padded pieces padded) :
      Padded (piece :: pieces) (piece :: padded)
  | insert {pieces padded : List String} {fragment : String} (idle : Idle fragment)
      (rest : Padded pieces padded) : Padded pieces (fragment :: padded)

variable {pair : String × String} {fragment : String} {pieces padded : List String}

private theorem Idle.whole (idle : Idle fragment) : ',' ∉ fragment.toList := by
  cases idle <;> assumption

/-- Nothing is read from an idle piece. -/
theorem Idle.readTag?_eq_none (idle : Idle fragment) : readTag? fragment.toList = none := by
  cases idle with
  | plain whole unsigned => rw [readTag?, Text.splitOnce?_eq_none_iff.mpr unsigned]
  | @keyless front back whole shape blank =>
    have free : '=' ∉ front := fun member => absurd (blank '=' member) (by decide)
    have empty : Text.trim front = [] := (Text.trim_eq_nil_iff front).mpr (List.all_eq_true.mpr blank)
    simp [shape, readTag?, Text.splitOnce?_append free, empty]

private theorem Writable.readTag?_eq (writable : Writable pair) :
    readTag? (pairText pair).toList = some (trimmedPair pair) := by
  have shape : (pairText pair).toList = pair.1.toList ++ '=' :: pair.2.toList := by
    simp [pairText, String.toList_append]
  have seen : (Text.trim pair.1.toList).isEmpty = false := by
    rw [List.isEmpty_eq_false_iff]
    intro empty
    exact writable.seen (by rw [Text.trimmed, empty])
  rw [shape, readTag?, Text.splitOnce?_append writable.keySign]
  simp only [seen, Bool.false_eq_true, if_false]
  rfl

private theorem Writable.whole (writable : Writable pair) : ',' ∉ (pairText pair).toList := by
  simp only [pairText, String.toList_append, List.mem_append, not_or]
  exact ⟨⟨writable.keyComma, by decide⟩, writable.valueComma⟩

/-- What is read from a list is read from its pieces, one by one. -/
theorem read_intercalate (whole : ∀ piece ∈ pieces, ',' ∉ piece.toList) :
    Tags.read (",".intercalate pieces) =
      .ofList (pieces.filterMap fun piece => readTag? piece.toList) := by
  rw [Tags.read, String.toList_intercalate]
  change ofList ((Text.splitOn ',' (List.intercalate [','] _)).filterMap readTag?) = _
  by_cases none : pieces = []
  · rw [none]
    rfl
  · have free : ∀ piece ∈ pieces.map String.toList, ',' ∉ piece := List.forall_mem_map.mpr whole
    rw [Text.splitOn_intercalate (by simpa using none) free, List.filterMap_map]
    rfl

private theorem Padded.whole (padding : Padded pieces padded)
    (whole : ∀ piece ∈ pieces, ',' ∉ piece.toList) : ∀ piece ∈ padded, ',' ∉ piece.toList := by
  induction padding with
  | nil => exact whole
  | keep piece rest ih =>
    obtain ⟨own, more⟩ := List.forall_mem_cons.mp whole
    exact List.forall_mem_cons.mpr ⟨own, ih more⟩
  | insert idle rest ih => exact List.forall_mem_cons.mpr ⟨idle.whole, ih whole⟩

private theorem Padded.filterMap_eq (padding : Padded pieces padded) :
    padded.filterMap (fun piece => readTag? piece.toList) =
      pieces.filterMap fun piece => readTag? piece.toList := by
  induction padding with
  | nil => rfl
  | keep piece rest ih => rw [List.filterMap_cons, List.filterMap_cons, ih]
  | insert idle rest ih => rw [List.filterMap_cons, idle.readTag?_eq_none, ih]

private theorem filterMap_pairText {pairs : List (String × String)}
    (writable : ∀ pair ∈ pairs, Writable pair) :
    (pairs.map pairText).filterMap (fun piece => readTag? piece.toList) = pairs.map trimmedPair := by
  induction pairs with
  | nil => rfl
  | cons pair rest ih =>
    obtain ⟨own, more⟩ := List.forall_mem_cons.mp writable
    rw [List.map_cons, List.filterMap_cons, own.readTag?_eq, ih more, List.map_cons]

private theorem read_pairs {pairs : List (String × String)}
    (writable : ∀ pair ∈ pairs, Writable pair) :
    Tags.read (",".intercalate (pairs.map pairText)) = .ofList (pairs.map trimmedPair) := by
  rw [read_intercalate (List.forall_mem_map.mpr fun pair member => (writable pair member).whole),
    filterMap_pairText writable]

/-- **Lists of tags are read back.** Pairs that can be written, whatever white space is around their
keys and values, are read back as the set of the trimmed pairs: a key has the value that was written for
it last, up to the next comma. Pieces that say nothing of a tag change nothing, wherever they are put
in among any others. And the text of a tag set whose tags are trimmed and can be written is, without its
braces, read as that set. -/
theorem tag_lists_are_read_back :
    (∀ pairs : List (String × String), (∀ pair ∈ pairs, Writable pair) →
      let tags := Tags.read (",".intercalate (pairs.map pairText))
      tags = .ofList (pairs.map trimmedPair) ∧
      ∀ key value, tags.get? key = some value ↔ LastGives (pairs.map trimmedPair) key value) ∧
    (∀ pieces padded, (∀ piece ∈ pieces, ',' ∉ piece.toList) → Padded pieces padded →
      Tags.read (",".intercalate padded) = Tags.read (",".intercalate pieces)) ∧
    ∀ tags : Tags, (∀ pair ∈ tags.entries, Writable pair ∧ trimmedPair pair = pair) →
      ∃ inner, tags.text = "\x7b" ++ inner ++ "\x7d" ∧ Tags.read inner = tags := by
  refine ⟨fun pairs writable => ?_, fun pieces padded whole padding => ?_, fun tags proper => ?_⟩
  · have read := read_pairs writable
    exact ⟨read, fun key value => by rw [read, get?_ofList_eq_some_iff]⟩
  · rw [read_intercalate whole, read_intercalate (padding.whole whole), padding.filterMap_eq]
  · refine ⟨",".intercalate (tags.entries.map pairText), rfl, ?_⟩
    have trimmed : tags.entries.map trimmedPair = tags.entries :=
      (List.map_congr_left fun pair member => (proper pair member).2).trans (List.map_id _)
    rw [read_pairs fun pair member => (proper pair member).1, trimmed, ofList_entries]

/-- White space, idle pieces and a key that is written twice come to two tags, and these are read back
from their text. -/
theorem untidy_tag_list_is_read_back :
    let tags : Tags := .ofList [("app", "my=app"), ("env", "prod")]
    Tags.read "broken, app = my=app, =x,env=dev,,env=\tprod " = tags ∧
      ∃ inner, tags.text = "\x7b" ++ inner ++ "\x7d" ∧ Tags.read inner = tags := by
  obtain ⟨pairs, padding, back⟩ := tag_lists_are_read_back
  have writable :
      ∀ pair ∈ [(" app ", " my=app"), ("env", "dev"), ("env", "\tprod ")], Writable pair := by
    decide +kernel
  have space : ∀ c ∈ [' '], Text.isBlank c = true := List.forall_mem_singleton.mpr (by decide)
  have padded : Padded [" app = my=app", "env=dev", "env=\tprod "]
      ["broken", " app = my=app", " =x", "env=dev", "", "env=\tprod "] :=
    .insert (.plain (by decide) (by decide)) <| .keep _ <|
      .insert (@Idle.keyless _ [' '] ['x'] (by decide) (by decide) space) <| .keep _ <|
        .insert (.plain (by decide) (by decide)) <| .keep _ .nil
  have read := (padding _ _ (by decide) padded).trans (pairs _ writable).1
  exact ⟨read.trans (by decide), back _ (by decide +kernel)⟩

end Telemetry.Tags
