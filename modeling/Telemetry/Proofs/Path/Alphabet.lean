import Telemetry.Export.Path
import Telemetry.Proofs.Decimal.Positional
import Telemetry.Proofs.Text.Lines

/-! What hierarchical names are made of. Whatever a meter and its tags are called, a level keeps no
character that could end the name, and only the dots between the levels are dots. -/
namespace Telemetry.Path
variable {c : Char}

private theorem isKept_of_mem_level {text : List Char} (member : c ∈ level text) :
    isKept c = true := by
  obtain ⟨original, -, rfl⟩ := List.mem_map.mp member
  split
  · assumption
  · decide

private theorem isKept_of_isDigit (digit : c.isDigit = true) : isKept c = true := by
  simp [isKept, Char.isAlphanum, digit]

/-- The name of a statistic needs no replacing. -/
private theorem isKept_of_mem_suffix {statistic : Statistic} (member : c ∈ statistic.suffix.toList) :
    isKept c = true := by
  have letters {word : List Char} (kept : word.all isKept = true) (inside : c ∈ word) :
      isKept c = true := List.all_eq_true.mp kept c inside
  cases statistic with
  | quantile q =>
    simp only [Statistic.suffix, String.toList_append, String.toList_ofList] at member
    rcases List.mem_append.mp member with mark | digit
    · exact letters (by decide) mark
    · exact isKept_of_isDigit (Decimal.isDigit_of_mem_digitText digit)
  | _ => exact letters (by decide) member

theorem isKept_of_mem_levels {id : MeterId} {statistic : Statistic} {piece : List Char}
    (own : piece ∈ levels id statistic) (member : c ∈ piece) : isKept c = true := by
  rw [levels, List.mem_append, List.mem_append, List.mem_singleton] at own
  rcases own with (ofName | ofTag) | rfl
  · obtain ⟨part, -, rfl⟩ := List.mem_map.mp ofName
    exact isKept_of_mem_level member
  · obtain ⟨tag, -, side⟩ := List.mem_flatMap.mp ofTag
    simp only [tagLevels, List.mem_cons, List.not_mem_nil, or_false] at side
    rcases side with rfl | rfl
    · exact isKept_of_mem_level member
    · exact isKept_of_mem_level member
  · exact isKept_of_mem_suffix member

/-- A hierarchical name has letters and digits, underscores, hyphens and dots. -/
theorem mem_name {id : MeterId} {statistic : Statistic} (member : c ∈ (name id statistic).toList) :
    c.isAlphanum = true ∨ c = '_' ∨ c = '-' ∨ c = '.' := by
  rw [name, String.toList_ofList] at member
  rcases Text.mem_intercalate member with dot | ⟨piece, own, inside⟩
  · exact .inr (.inr (.inr dot))
  · have kept := isKept_of_mem_levels own inside
    simp only [isKept, Bool.or_eq_true, decide_eq_true_eq, or_assoc] at kept
    rcases kept with alphanumeric | underscore | hyphen
    · exact .inl alphanumeric
    · exact .inr (.inl underscore)
    · exact .inr (.inr (.inl hyphen))

end Telemetry.Path
