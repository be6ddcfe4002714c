import Telemetry.Export.Plaintext
import Telemetry.Proofs.Decimal.Positional
import Telemetry.Proofs.Path.Alphabet
import Telemetry.Proofs.Reading
import Telemetry.Proofs.Text.Lines

/-! The lines of a snapshot, read back. A line is cut at its spaces and the text at its newlines, and
nothing that a meter or a tag is called has either of them left when it is written. -/
namespace Telemetry.Plaintext
variable {c : Char}

/-- A line tells of a number: where it belongs, its value, and the second that a wall time falls into,
with single spaces between. -/
def TellsOf (wallMillis : Int) (line : List Char) (number : MeterId × Measurement) : Prop :=
  ∃ path value second, Text.splitOn ' ' line = [path, value, second] ∧
    path = (Path.name number.1 number.2.statistic).toList ∧
    (∀ c ∈ path, c.isAlphanum = true ∨ c = '_' ∨ c = '-' ∨ c = '.') ∧
    value = (Decimal.plain.write number.2.value).toList ∧
    ∃ t : Int, second = (toString t).toList ∧ 1000 * t ≤ wallMillis ∧ wallMillis < 1000 * t + 1000

/-- The three fields of a line. -/
def fields (wallMillis : Int) (number : MeterId × Measurement) : List (List Char) :=
  [(Path.name number.1 number.2.statistic).toList, (Decimal.plain.write number.2.value).toList,
    (toString (timestamp wallMillis)).toList]

/-- Neither ends a field nor ends a line. -/
def isInner (c : Char) : Bool := c ≠ ' ' ∧ c ≠ '\n'

private theorem isInner_of_isAlphanum (alphanumeric : c.isAlphanum = true) : isInner c = true := by
  rw [isInner, decide_eq_true_eq]
  constructor <;> rintro rfl <;> exact absurd alphanumeric (by decide)

private theorem isInner_of_isDigit (digit : c.isDigit = true) : isInner c = true :=
  isInner_of_isAlphanum (by rw [Char.isAlphanum, digit, Bool.or_true])

private theorem isInner_of_mem_name {id : MeterId} {statistic : Statistic}
    (member : c ∈ (Path.name id statistic).toList) : isInner c = true := by
  rcases Path.mem_name member with alphanumeric | rfl | rfl | rfl
  · exact isInner_of_isAlphanum alphanumeric
  all_goals decide

private theorem isInner_of_mem_write {value : Binary64}
    (member : c ∈ (Decimal.plain.write value).toList) : isInner c = true :=
  Decimal.forall_mem_write Decimal.plain_positional (fun _ digit => isInner_of_isDigit digit)
    (by decide) (by decide) (by decide) member

private theorem isInner_of_mem_toString {n : Int} (member : c ∈ (toString n).toList) :
    isInner c = true := by
  rcases Decimal.mem_toString member with digit | rfl
  · exact isInner_of_isDigit digit
  · decide

private theorem isInner_of_mem_fields {wallMillis : Int} {number : MeterId × Measurement}
    {field : List Char} (own : field ∈ fields wallMillis number) (member : c ∈ field) :
    isInner c = true := by
  simp only [fields, List.mem_cons, List.not_mem_nil, or_false] at own
  rcases own with path | value | second
  · rw [path] at member
    exact isInner_of_mem_name member
  · rw [value] at member
    exact isInner_of_mem_write member
  · rw [second] at member
    exact isInner_of_mem_toString member

/-- The second that a wall time falls into begins before it and ends after it. -/
theorem timestamp_spec (wallMillis : Int) :
    1000 * timestamp wallMillis ≤ wallMillis ∧ wallMillis < 1000 * timestamp wallMillis + 1000 := by
  rw [timestamp, Int.fdiv_eq_ediv_of_nonneg _ (by decide)]
  omega

/-- A line without its newline. -/
def content (wallMillis : Int) (number : MeterId × Measurement) : List Char :=
  List.intercalate [' '] (fields wallMillis number)

private theorem line_eq (wallMillis : Int) (number : MeterId × Measurement) :
    (line wallMillis number.1 number.2).toList = content wallMillis number ++ ['\n'] := by
  simp [line, content, fields, List.intercalate_cons_cons, List.intercalate_singleton]

private theorem content_tellsOf (wallMillis : Int) (number : MeterId × Measurement) :
    TellsOf wallMillis (content wallMillis number) number := by
  refine ⟨_, _, _, Text.splitOn_intercalate (List.cons_ne_nil _ _) fun field own blank => ?_, rfl,
    fun c member => Path.mem_name member, rfl, timestamp wallMillis, rfl, timestamp_spec wallMillis⟩
  exact absurd (isInner_of_mem_fields own blank) (by decide)

private theorem newline_not_mem_content (wallMillis : Int) (number : MeterId × Measurement) :
    '\n' ∉ content wallMillis number := by
  intro member
  rcases Text.mem_intercalate member with blank | ⟨field, own, inside⟩
  · exact absurd blank (by decide)
  · exact absurd (isInner_of_mem_fields own inside) (by decide)

private theorem render_eq (snapshot : Snapshot) (wallMillis : Int) :
    (render snapshot wallMillis).toList =
      ((numbers snapshot).map (content wallMillis)).flatMap (· ++ ['\n']) := by
  rw [render, lines, flatMap_measurements, String.toList_join, List.flatMap_map, List.flatMap_map]
  exact List.flatMap_congr fun number _ => line_eq wallMillis number

/-- **The lines are one for each number, in their order**, whatever meters and tags are called and
whenever it is: the text has as many lines as there are numbers, the last of them finished like all
others, and each says in three fields where its number belongs, its value and its second. -/
theorem render_lines (snapshot : Snapshot) (wallMillis : Int) :
    ∃ lines, Text.lines? (render snapshot wallMillis).toList = some lines ∧
      List.Forall₂ (TellsOf wallMillis) lines (numbers snapshot) := by
  refine ⟨(numbers snapshot).map (content wallMillis), ?_, ?_⟩
  · rw [render_eq]
    refine Text.lines?_flatMap fun line member => ?_
    obtain ⟨number, -, rfl⟩ := List.mem_map.mp member
    exact newline_not_mem_content wallMillis number
  · exact List.forall₂_map_left_iff.mpr (List.forall₂_same.mpr fun number _ =>
      content_tellsOf wallMillis number)

end Telemetry.Plaintext
