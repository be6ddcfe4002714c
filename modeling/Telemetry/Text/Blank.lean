import Telemetry.Text.CodePoints
/-!
White space and trimming. White space is what the standard calls so, not only the blanks of ASCII.
-/
namespace Telemetry.Text

/-- The white space characters. -/
def blanks : CodePoints :=
  [(0x9, 0xd), (0x20, 0x20), (0x85, 0x85), (0xa0, 0xa0), (0x1680, 0x1680), (0x2000, 0x200a),
   (0x2028, 0x2029), (0x202f, 0x202f), (0x205f, 0x205f), (0x3000, 0x3000)]

/-- Whether a character is white space. -/
def isBlank (c : Char) : Bool := blanks.has c

/-- A text without the white space at its end. -/
def trimEnd (text : List Char) : List Char := (text.reverse.dropWhile isBlank).reverse

/-- A text without the white space at either end. -/
def trim (text : List Char) : List Char := trimEnd (text.dropWhile isBlank)

/-- Whether nothing but white space is there. -/
def isBlankText (text : String) : Bool := text.toList.all isBlank

/-- A string without the white space at either end. -/
def trimmed (text : String) : String := String.ofList (trim text.toList)

theorem dropWhile_eq_nil_iff {p : Char → Bool} (text : List Char) :
    text.dropWhile p = [] ↔ text.all p = true := by
  induction text with
  | nil => simp
  | cons c rest ih => by_cases held : p c <;> simp_all

/-- What is trimmed away leaves nothing exactly if all of it is white space. -/
theorem trim_eq_nil_iff (text : List Char) : trim text = [] ↔ text.all isBlank = true := by
  constructor
  · intro empty
    have rest : (text.dropWhile isBlank).all isBlank = true := by
      have := (dropWhile_eq_nil_iff _).mp (List.reverse_eq_nil_iff.mp empty)
      simpa using this
    have split : text.takeWhile isBlank ++ text.dropWhile isBlank = text :=
      List.takeWhile_append_dropWhile
    rw [← split, List.all_append, rest, Bool.and_true]
    exact List.all_takeWhile
  · intro all
    simp [trim, trimEnd, (dropWhile_eq_nil_iff text).mpr all]

end Telemetry.Text
