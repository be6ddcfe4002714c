/-!
Splitting texts at a character.
-/
namespace Telemetry.Text

/-- The pieces between the occurrences of a character; there is always at least one. -/
def splitOn (separator : Char) : List Char → List (List Char)
  | [] => [[]]
  | c :: rest =>
    if c = separator then [] :: splitOn separator rest
    else match splitOn separator rest with
      | [] => [[c]]
      | piece :: pieces => (c :: piece) :: pieces

/-- What stands before and after the first occurrence of a character. -/
def splitOnce? (separator : Char) (text : List Char) : Option (List Char × List Char) :=
  match text.dropWhile (· ≠ separator) with
  | [] => none
  | _ :: rest => some (text.takeWhile (· ≠ separator), rest)

theorem splitOn_ne_nil (separator : Char) (text : List Char) : splitOn separator text ≠ [] := by
  induction text with
  | nil => simp [splitOn]
  | cons c rest ih =>
    simp only [splitOn]
    split
    · simp
    · split <;> simp

/-- No piece holds the separator. -/
theorem not_mem_of_mem_splitOn {separator : Char} {text piece : List Char}
    (mem : piece ∈ splitOn separator text) : separator ∉ piece := by
  induction text generalizing piece with
  | nil => simp_all [splitOn]
  | cons c rest ih =>
    simp only [splitOn] at mem
    split at mem
    · rcases List.mem_cons.mp mem with rfl | mem
      · simp
      · exact ih mem
    · rename_i apart
      split at mem
      · rename_i empty
        exact absurd empty (splitOn_ne_nil _ _)
      · rename_i first pieces split
        rcases List.mem_cons.mp mem with rfl | mem
        · have : separator ∉ first := ih (by simp [split])
          simp [this, Ne.symm apart]
        · exact ih (by simp [split, mem])

/-- The pieces with the separator between them are the text. -/
theorem intercalate_splitOn (separator : Char) (text : List Char) :
    List.intercalate [separator] (splitOn separator text) = text := by
  induction text with
  | nil => rfl
  | cons c rest ih =>
    simp only [splitOn]
    split
    · rename_i same
      obtain ⟨first, pieces, split⟩ := List.exists_cons_of_ne_nil (splitOn_ne_nil separator rest)
      rw [split] at ih ⊢
      rw [← ih, same]
      simp [List.intercalate, List.intersperse]
    · split
      · rename_i empty
        exact absurd empty (splitOn_ne_nil _ _)
      · rename_i first pieces split
        rw [split] at ih
        rw [← ih]
        cases pieces <;> simp [List.intercalate, List.intersperse]

end Telemetry.Text
