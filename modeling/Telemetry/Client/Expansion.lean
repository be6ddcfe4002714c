/-!
Address templates: literal text with placeholders in braces. A placeholder reaches from an opening
brace to the next closing one, and an opening brace without a closing one behind it is literal.
Values are put in as they are and never looked at again.
-/
namespace Telemetry.Client

/-- A template in its parts: the placeholders, each with the literal text in front of it, and the
text at the end. -/
structure Expansion where
  placeholders : List (List Char × List Char)
  rest : List Char
deriving DecidableEq

namespace Expansion

/-- A placeholder in its braces. -/
def braced (name : List Char) : List Char := '\x7b' :: (name ++ ['\x7d'])

/-- The text of a template. -/
def text (expansion : Expansion) : List Char :=
  expansion.placeholders.flatMap (fun (literal, name) => literal ++ braced name) ++ expansion.rest

/-- Splits a text at the first occurrence of a character. -/
def splitAt? (c : Char) : List Char → Option (List Char × List Char)
  | [] => none
  | d :: rest =>
    if d = c then some ([], rest)
    else (splitAt? c rest).map fun (before, after) => (d :: before, after)

theorem length_lt_of_splitAt? {c : Char} {text before after : List Char}
    (found : splitAt? c text = some (before, after)) : after.length < text.length := by
  induction text generalizing before after with
  | nil => simp [splitAt?] at found
  | cons d rest ih =>
    simp only [splitAt?] at found
    split at found
    · cases found
      simp
    · simp only [Option.map_eq_some_iff, Prod.mk.injEq] at found
      obtain ⟨⟨front, back⟩, inner, -, rfl⟩ := found
      exact Nat.lt_succ_of_lt (ih inner)

/-- The parts of a template. -/
def read (template : List Char) : Expansion :=
  match _opened : splitAt? '\x7b' template with
  | none => ⟨[], template⟩
  | some (literal, opened) =>
    match _closed : splitAt? '\x7d' opened with
    | none => ⟨[], template⟩
    | some (name, rest) =>
      let expansion := read rest
      { expansion with placeholders := (literal, name) :: expansion.placeholders }
termination_by template.length
decreasing_by
  exact Nat.lt_trans (length_lt_of_splitAt? _closed) (length_lt_of_splitAt? _opened)

/-- The text with a value in the place of each placeholder. -/
def fill (expansion : Expansion) (values : List (List Char)) : List Char :=
  (List.zipWith (fun (literal, _) value => literal ++ value) expansion.placeholders values).flatten ++
    expansion.rest

end Expansion
end Telemetry.Client
