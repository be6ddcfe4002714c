import Telemetry.Text.Blank
import Telemetry.Text.LowerCase

/-! Trimmed text. Trimming leaves a text that neither begins nor ends with white space, and small
letters keep it so: no character that is seen becomes white space. -/
namespace Telemetry.Text

/-- Neither the first nor the last character is white space. -/
def Trimmed (text : List Char) : Prop :=
  (∀ c ∈ text.head?, isBlank c = false) ∧ ∀ c ∈ text.getLast?, isBlank c = false

private theorem head?_dropWhile_blank (text : List Char) :
    ∀ c ∈ (text.dropWhile isBlank).head?, isBlank c = false := by
  intro c head
  have := List.head?_dropWhile_not isBlank text
  simp_all

/-- What is cut off at the end is all white space. -/
theorem exists_blanks_of_trimEnd (text : List Char) :
    ∃ blanks, (∀ c ∈ blanks, isBlank c = true) ∧ text = trimEnd text ++ blanks := by
  refine ⟨(text.reverse.takeWhile isBlank).reverse, fun c member => ?_, ?_⟩
  · exact List.all_eq_true.mp List.all_takeWhile c (List.mem_reverse.mp member)
  · rw [trimEnd, ← List.reverse_append, List.takeWhile_append_dropWhile, List.reverse_reverse]

private theorem getLast?_trimEnd (text : List Char) :
    ∀ c ∈ (trimEnd text).getLast?, isBlank c = false := by
  rw [trimEnd, List.getLast?_reverse]
  exact head?_dropWhile_blank _

theorem trimmed_trim (text : List Char) : Trimmed (trim text) := by
  refine ⟨?_, getLast?_trimEnd _⟩
  obtain ⟨blanks, -, cut⟩ := exists_blanks_of_trimEnd (text.dropWhile isBlank)
  intro c head
  refine head?_dropWhile_blank text c ?_
  rw [cut, List.head?_append]
  rw [trim] at head
  rw [head]
  rfl

theorem dropWhile_blank_eq_self {text : List Char} (seen : ∀ c ∈ text.head?, isBlank c = false) :
    text.dropWhile isBlank = text := by
  cases text with
  | nil => rfl
  | cons c rest => rw [List.dropWhile_cons, seen c rfl]; rfl

theorem head?_trimEnd {text : List Char} {c : Char} (first : (trimEnd text).head? = some c) :
    text.head? = some c := by
  obtain ⟨blanks, -, split⟩ := exists_blanks_of_trimEnd text
  rw [split, List.head?_append, first, Option.some_or]

theorem trimEnd_of_blank {text : List Char} (blank : ∀ c ∈ text, isBlank c = true) :
    trimEnd text = [] := by
  rw [trimEnd, List.reverse_eq_nil_iff, dropWhile_eq_nil_iff, List.all_reverse]
  exact List.all_eq_true.mpr blank

/-- Trimming the end leaves what does not end in white space as it is. -/
theorem trimEnd_append {text : List Char} (seen : ∀ c ∈ text.getLast?, isBlank c = false)
    (more : List Char) : trimEnd (text ++ more) = text ++ trimEnd more := by
  have kept : text.reverse.dropWhile isBlank = text.reverse := by
    refine dropWhile_blank_eq_self fun last isLast => seen last ?_
    rwa [List.head?_reverse] at isLast
  rw [trimEnd, trimEnd, List.reverse_append, List.dropWhile_append, kept]
  split
  · rename_i nothing
    rw [List.isEmpty_iff.mp nothing, List.reverse_reverse, List.reverse_nil, List.append_nil]
  · rw [List.reverse_append, List.reverse_reverse]

theorem trimEnd_eq_self {text : List Char} (seen : ∀ c ∈ text.getLast?, isBlank c = false) :
    trimEnd text = text := by
  have alone := trimEnd_append seen []
  rwa [trimEnd_of_blank (List.forall_mem_nil _), List.append_nil] at alone

/-- Behind a trimmed text only the end is trimmed. -/
theorem Trimmed.trim_append_eq {text : List Char} (trimmed : Trimmed text) (some : text ≠ [])
    (more : List Char) : trim (text ++ more) = text ++ trimEnd more := by
  have front : (text ++ more).dropWhile isBlank = text ++ more := by
    obtain ⟨first, tail, rfl⟩ := List.exists_cons_of_ne_nil some
    exact dropWhile_blank_eq_self fun c head => trimmed.1 c head
  rw [trim, front, trimEnd_append trimmed.2]

/-- White space behind a trimmed text is all that trimming takes away. -/
theorem Trimmed.trim_append {text blanks : List Char} (trimmed : Trimmed text)
    (blank : ∀ c ∈ blanks, isBlank c = true) : trim (text ++ blanks) = text := by
  by_cases empty : text = []
  · rw [empty, List.nil_append, trim_eq_nil_iff]
    exact List.all_eq_true.mpr blank
  · rw [trimmed.trim_append_eq empty, trimEnd_of_blank blank, List.append_nil]

theorem Trimmed.trim_eq {text : List Char} (trimmed : Trimmed text) : trim text = text := by
  have behind : trim (text ++ []) = text := trimmed.trim_append fun _ none => nomatch none
  rwa [List.append_nil] at behind

theorem trimmed_trimmed (text : String) : trimmed (trimmed text) = trimmed text := by
  rw [trimmed, trimmed, String.toList_ofList, (trimmed_trim _).trim_eq]

/-- Trimming leaves nothing exactly of a blank text. -/
theorem trimmed_eq_empty_iff (text : String) : trimmed text = "" ↔ isBlankText text = true := by
  rw [isBlankText, ← trim_eq_nil_iff, trimmed, ← String.toList_inj, String.toList_ofList,
    String.toList_empty]

/-! ## Small letters -/

/-- No run of letters has its small forms among the white space. -/
private theorem small_apart_from_blanks : ∀ run ∈ caseRuns, ∀ range ∈ blanks,
    run.small + (run.last - run.first) < range.1 ∨ range.2 < run.small := by
  decide +kernel

private theorem isBlank_ofNat_small {run : CaseRun} (isRun : run ∈ caseRuns) {code small : Nat}
    (found : run.small? code = some small) : isBlank (Char.ofNat small) = false := by
  rw [CaseRun.small?] at found
  split at found
  · rename_i within
    cases found
    have apart (range) (member : range ∈ blanks) :
        ¬ (range.1 ≤ run.small + (code - run.first) ∧ run.small + (code - run.first) ≤ range.2) := by
      have := small_apart_from_blanks run isRun range member
      omega
    by_cases valid : (run.small + (code - run.first)).isValidChar
    · have code : (Char.ofNat (run.small + (code - run.first))).toNat =
          run.small + (code - run.first) := by
        rw [Char.ofNat, dif_pos valid]
        rfl
      rw [isBlank, CodePoints.has, code, CodePoints.hasCode]
      simpa using apart
    · rw [Char.ofNat, dif_neg valid]
      decide
  · cases found

private theorem isBlank_toLower_ascii {code : Nat} (ascii : code < 0x80) :
    isBlank (Char.ofNat code).toLower = isBlank (Char.ofNat code) := by
  have all : ((List.range 0x80).all fun code =>
      isBlank (Char.ofNat code).toLower == isBlank (Char.ofNat code)) = true := by
    decide +kernel
  exact beq_iff_eq.mp (List.all_eq_true.mp all code (List.mem_range.mpr ascii))

/-- A character that is seen stays one in small letters. -/
private theorem isBlank_of_mem_lowerChar {c small : Char} (seen : isBlank c = false)
    (member : small ∈ lowerChar c) : isBlank small = false := by
  rw [lowerChar] at member
  split at member
  · rename_i ascii
    have same := isBlank_toLower_ascii ascii
    rw [Char.ofNat_toNat] at same
    rw [List.mem_singleton.mp member, same, seen]
  · split at member
    · simp only [List.mem_cons, List.not_mem_nil, or_false] at member
      rcases member with rfl | rfl <;> decide
    · split at member
      · rename_i code found
        obtain ⟨run, isRun, found⟩ := List.exists_of_findSome?_eq_some found
        rw [List.mem_singleton.mp member]
        exact isBlank_ofNat_small isRun found
      · rw [List.mem_singleton.mp member, seen]

private theorem lowerChar_ne_nil (c : Char) : lowerChar c ≠ [] := by
  unfold lowerChar
  split
  · exact List.cons_ne_nil _ _
  · split
    · exact List.cons_ne_nil _ _
    · split <;> exact List.cons_ne_nil _ _

theorem Trimmed.lowerCase {text : List Char} (trimmed : Trimmed text) :
    Trimmed (lowerCase text) := by
  constructor
  · cases text with
    | nil => exact fun c none => nomatch none
    | cons first rest =>
      intro c head
      obtain ⟨small, more, cased⟩ := List.exists_cons_of_ne_nil (lowerChar_ne_nil first)
      rw [Text.lowerCase, List.flatMap_cons, cased] at head
      cases head
      exact isBlank_of_mem_lowerChar (trimmed.1 first rfl) (by simp [cased])
  · rcases List.eq_nil_or_concat text with rfl | ⟨front, last, rfl⟩
    · exact fun c none => nomatch none
    · intro c isLast
      rw [List.concat_eq_append, Text.lowerCase, List.flatMap_append, List.flatMap_singleton,
        List.getLast?_append] at isLast
      have own : c ∈ (lowerChar last).getLast? := by
        cases cased : (lowerChar last).getLast? with
        | none => exact absurd (List.getLast?_eq_none_iff.mp cased) (lowerChar_ne_nil last)
        | some small => rwa [cased] at isLast
      exact isBlank_of_mem_lowerChar (trimmed.2 last (by simp)) (List.mem_of_getLast? own)

end Telemetry.Text
