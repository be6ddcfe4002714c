import Telemetry.Text.Split

/-! Cutting text at a character. What was put together with separators that no piece holds comes
apart into the same pieces; a text of lines is the case where every piece ends in a newline. -/
namespace Telemetry.Text

/-- What holds of a whole text and not of what follows it tells the two apart. -/
theorem takeWhile_dropWhile_append {p : Char → Bool} {text rest : List Char}
    (all : ∀ c ∈ text, p c = true) (ends : ∀ c ∈ rest.head?, p c = false) :
    (text ++ rest).takeWhile p = text ∧ (text ++ rest).dropWhile p = rest := by
  rw [List.takeWhile_append_of_pos all, List.dropWhile_append_of_pos all]
  cases rest with
  | nil => exact ⟨List.append_nil _, rfl⟩
  | cons c more =>
    have stop : p c = false := ends c rfl
    simp [stop]

private theorem splitOn_append {separator : Char} {piece : List Char} (free : separator ∉ piece)
    (rest : List Char) :
    splitOn separator (piece ++ separator :: rest) = piece :: splitOn separator rest := by
  induction piece with
  | nil => simp [splitOn]
  | cons c tail ih =>
    have apart : c ≠ separator := (List.ne_of_not_mem_cons free).symm
    rw [List.cons_append, splitOn, if_neg apart, ih (List.not_mem_of_not_mem_cons free)]

private theorem splitOn_of_not_mem {separator : Char} {text : List Char} (free : separator ∉ text) :
    splitOn separator text = [text] := by
  induction text with
  | nil => rfl
  | cons c tail ih =>
    have apart : c ≠ separator := (List.ne_of_not_mem_cons free).symm
    rw [splitOn, if_neg apart, ih (List.not_mem_of_not_mem_cons free)]

/-- Pieces with the separator between them come apart again. -/
theorem splitOn_intercalate {separator : Char} {pieces : List (List Char)} (some : pieces ≠ [])
    (free : ∀ piece ∈ pieces, separator ∉ piece) :
    splitOn separator (List.intercalate [separator] pieces) = pieces := by
  induction pieces with
  | nil => exact absurd rfl some
  | cons piece rest ih =>
    have own : separator ∉ piece := free piece List.mem_cons_self
    cases rest with
    | nil => rw [List.intercalate_singleton, splitOn_of_not_mem own]
    | cons next more =>
      rw [List.intercalate_cons_cons, List.append_assoc, List.singleton_append, splitOn_append own,
        ih (List.cons_ne_nil _ _) fun other member => free other (List.mem_cons_of_mem _ member)]

theorem mem_intercalate {c separator : Char} {pieces : List (List Char)}
    (member : c ∈ List.intercalate [separator] pieces) :
    c = separator ∨ ∃ piece ∈ pieces, c ∈ piece := by
  induction pieces with
  | nil => cases member
  | cons piece rest ih =>
    cases rest with
    | nil => exact .inr ⟨piece, List.mem_cons_self, by simpa [List.intercalate] using member⟩
    | cons next more =>
      rw [List.intercalate_cons_cons, List.append_assoc, List.mem_append, List.mem_append] at member
      rcases member with own | between | later
      · exact .inr ⟨piece, List.mem_cons_self, own⟩
      · exact .inl (List.mem_singleton.mp between)
      · exact (ih later).imp_right fun ⟨other, held, inside⟩ =>
          ⟨other, List.mem_cons_of_mem _ held, inside⟩

theorem intercalate_eq_nil_iff {separator : Char} {pieces : List (List Char)} :
    List.intercalate [separator] pieces = [] ↔ pieces = [] ∨ pieces = [[]] := by
  cases pieces with
  | nil => simp
  | cons piece rest =>
    by_cases only : rest = []
    · simp [only]
    · simp [List.intercalate_cons_of_ne_nil only, only]

/-- Pieces with separators between them begin with a separator if the first one is empty. -/
theorem head?_intercalate_iff {separator : Char} {pieces : List (List Char)}
    (free : ∀ piece ∈ pieces, separator ∉ piece)
    (nonempty : List.intercalate [separator] pieces ≠ []) :
    (List.intercalate [separator] pieces).head? = some separator ↔ pieces.head? = some [] := by
  rw [Ne, intercalate_eq_nil_iff, not_or] at nonempty
  obtain ⟨piece, rest, rfl⟩ := List.exists_cons_of_ne_nil nonempty.1
  cases piece with
  | nil =>
    have more : rest ≠ [] := fun only => nonempty.2 (by rw [only])
    simp [List.intercalate_cons_of_ne_nil more]
  | cons c tail =>
    have apart : c ≠ separator := (List.ne_of_not_mem_cons (free _ List.mem_cons_self)).symm
    by_cases only : rest = []
    · simp [only, apart]
    · simp [List.intercalate_cons_of_ne_nil only, apart]

/-- Pieces with separators between them end with a separator if the last one is empty. -/
theorem getLast?_intercalate_iff {separator : Char} {pieces : List (List Char)}
    (free : ∀ piece ∈ pieces, separator ∉ piece)
    (nonempty : List.intercalate [separator] pieces ≠ []) :
    (List.intercalate [separator] pieces).getLast? = some separator ↔
      pieces.getLast? = some [] := by
  induction pieces with
  | nil => exact absurd rfl nonempty
  | cons piece rest ih =>
    obtain ⟨own, restFree⟩ := List.forall_mem_cons.mp free
    by_cases only : rest = []
    · rw [only, List.intercalate_singleton] at nonempty ⊢
      have inside : piece.getLast? ≠ some separator := fun last => own (List.mem_of_getLast? last)
      simp [nonempty, inside]
    · obtain ⟨next, more, rfl⟩ := List.exists_cons_of_ne_nil only
      rw [List.intercalate_cons_of_ne_nil only, List.getLast?_append, List.getLast?_cons_cons]
      by_cases empty : List.intercalate [separator] (next :: more) = []
      · rcases intercalate_eq_nil_iff.mp empty with none | last
        · cases none
        · simp [last]
      · rw [← ih restFree empty, List.getLast?_eq_some_getLast empty, Option.some_or]

theorem splitOnce?_append {separator : Char} {before : List Char} (free : separator ∉ before)
    (after : List Char) :
    splitOnce? separator (before ++ separator :: after) = some (before, after) := by
  have passes : ∀ c ∈ before, decide (c ≠ separator) = true := by
    intro c member
    exact decide_eq_true (fun same => free (same ▸ member))
  rw [splitOnce?, List.dropWhile_append_of_pos passes, List.takeWhile_append_of_pos passes]
  simp

/-- A text comes apart once if it holds the separator, at the first one. -/
theorem splitOnce?_eq_some_iff {separator : Char} {text before after : List Char} :
    splitOnce? separator text = some (before, after) ↔
      separator ∉ before ∧ text = before ++ separator :: after := by
  constructor
  · intro split
    rw [splitOnce?] at split
    cases stop : text.dropWhile (· ≠ separator) with
    | nil =>
      rw [stop] at split
      cases split
    | cons c rest =>
      rw [stop] at split
      cases split
      have same : c = separator := by
        have first := List.head?_dropWhile_not (· ≠ separator) text
        rw [stop] at first
        simpa using first
      refine ⟨fun member => ?_, ?_⟩
      · have apart := List.all_eq_true.mp List.all_takeWhile separator member
        simp at apart
      · rw [← same, ← stop, same, List.takeWhile_append_dropWhile]
  · rintro ⟨free, rfl⟩
    exact splitOnce?_append free after

theorem splitOnce?_eq_none_iff {separator : Char} {text : List Char} :
    splitOnce? separator text = none ↔ separator ∉ text := by
  constructor
  · intro whole member
    obtain ⟨before, after, rfl, free⟩ := List.eq_append_cons_of_mem member
    rw [splitOnce?_append free] at whole
    cases whole
  · intro free
    cases split : splitOnce? separator text with
    | none => rfl
    | some cut =>
      rw [(splitOnce?_eq_some_iff.mp split).2] at free
      simp at free

/-- What stands before and after the last occurrence of a character. -/
def splitLast? (separator : Char) (text : List Char) : Option (List Char × List Char) :=
  (splitOnce? separator text.reverse).map fun (after, before) => (before.reverse, after.reverse)

theorem splitLast?_append {separator : Char} {after : List Char} (free : separator ∉ after)
    (before : List Char) :
    splitLast? separator (before ++ separator :: after) = some (before, after) := by
  rw [splitLast?, List.reverse_append, List.reverse_cons, List.append_assoc, List.singleton_append,
    splitOnce?_append (by simpa using free)]
  simp

/-- The lines of a text. The text is either empty or ends in a newline; anything else has a line
that was not finished. -/
def lines? (text : List Char) : Option (List (List Char)) :=
  let pieces := splitOn '\n' text
  if pieces.getLast? = some [] then some pieces.dropLast else none

private theorem splitOn_lines {lines : List (List Char)} (free : ∀ line ∈ lines, '\n' ∉ line) :
    splitOn '\n' (lines.flatMap (· ++ ['\n'])) = lines ++ [[]] := by
  induction lines with
  | nil => rfl
  | cons line rest ih =>
    rw [List.flatMap_cons, List.append_assoc, List.singleton_append,
      splitOn_append (free line List.mem_cons_self),
      ih fun other member => free other (List.mem_cons_of_mem _ member), List.cons_append]

/-- Lines that hold no newline, each with one behind it, are the lines of what they make up. -/
theorem lines?_flatMap {lines : List (List Char)} (free : ∀ line ∈ lines, '\n' ∉ line) :
    lines? (lines.flatMap (· ++ ['\n'])) = some lines := by
  simp [lines?, splitOn_lines free]

end Telemetry.Text
