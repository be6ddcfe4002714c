import Mathlib.Data.List.Basic
import Telemetry.Proofs.Text.Lines
import Telemetry.Route.Path

/-! A path is its parts with slashes between them and around them. The parts can be told from the path as
long as none of them vanishes among the slashes around them; slashes in front of a path do not count, and
neither does one behind it. -/
namespace Telemetry.Route
open Text

section Paths
variable {lead trail path : List Char} {pieces : List (List Char)}

/-- Pieces that can be told from a path in which slashes stand around them: none has a slash, the first
one does not vanish among the slashes in front, nor the last one where no slash is behind it. -/
structure Framed (trail : List Char) (pieces : List (List Char)) : Prop where
  behind : trail = [] ∨ trail = ['/']
  free : ∀ piece ∈ pieces, '/' ∉ piece
  first : pieces.head? ≠ some []
  last : trail = [] → pieces.getLast? ≠ some []

/-- Slashes in front of a path do not count. -/
theorem segments_append (slashes : ∀ c ∈ lead, c = '/') (path : List Char) :
    segments (lead ++ path) = segments path := by
  have all : ∀ c ∈ lead, decide (c = '/') = true := fun c member => decide_eq_true (slashes c member)
  have same : trimSlashes (lead ++ path) = trimSlashes path := by
    rw [trimSlashes, trimSlashes, List.dropWhile_append_of_pos all]
  rw [segments, segments, same]

private theorem trimSlashes_eq {inner : List Char} (first : inner.head? ≠ some '/')
    (behind : trail = [] ∧ inner.getLast? ≠ some '/' ∨ trail = ['/']) :
    trimSlashes (inner ++ trail) = inner := by
  cases inner with
  | nil => rcases behind with ⟨rfl, -⟩ | rfl <;> rfl
  | cons c rest =>
    have apart : ¬decide (c = '/') = true := by
      intro slash
      exact first (congrArg some (of_decide_eq_true slash))
    have whole : (c :: rest ++ trail).dropWhile (· = '/') = c :: rest ++ trail :=
      List.dropWhile_cons_of_neg apart
    rw [trimSlashes, whole]
    rcases behind with ⟨rfl, last⟩ | rfl
    · rw [List.append_nil, if_neg last]
    · rw [List.getLast?_concat, if_pos rfl, List.dropLast_concat]

/-- The parts of a path are the pieces that it was made of. -/
theorem Framed.segments_eq (framed : Framed trail pieces) (slashes : ∀ c ∈ lead, c = '/') :
    segments (lead ++ (List.intercalate ['/'] pieces ++ trail)) = pieces := by
  rw [segments_append slashes]
  cases pieces with
  | nil => rcases framed.behind with rfl | rfl <;> rfl
  | cons piece rest =>
    have inner : List.intercalate ['/'] (piece :: rest) ≠ [] := by
      rw [Ne, intercalate_eq_nil_iff]
      rintro (none | only)
      · cases none
      · exact framed.first (congrArg List.head? only)
    have trimmed : trimSlashes (List.intercalate ['/'] (piece :: rest) ++ trail) =
        List.intercalate ['/'] (piece :: rest) := by
      refine trimSlashes_eq (mt (head?_intercalate_iff framed.free inner).mp framed.first) ?_
      refine framed.behind.imp_left fun none => ⟨none, ?_⟩
      exact mt (getLast?_intercalate_iff framed.free inner).mp (framed.last none)
    rw [segments, trimmed, if_neg (mt List.isEmpty_iff.mp inner)]
    exact splitOn_intercalate (List.cons_ne_nil _ _) framed.free

private theorem intercalate_segments (path : List Char) :
    List.intercalate ['/'] (segments path) = trimSlashes path := by
  rw [segments]
  split
  · rename_i empty
    rw [List.isEmpty_iff.mp empty, List.intercalate_nil]
  · exact intercalate_splitOn '/' _

/-- What is trimmed off are slashes in front, and one behind unless there is none. -/
private theorem exists_trimmed (path : List Char) : ∃ lead trail, (∀ c ∈ lead, c = '/') ∧
    path = lead ++ (trimSlashes path ++ trail) ∧ (trimSlashes path).head? ≠ some '/' ∧
    (trail = [] ∧ (trimSlashes path).getLast? ≠ some '/' ∨ trail = ['/']) := by
  obtain ⟨trail, parts, behind⟩ : ∃ trail, path.dropWhile (· = '/') = trimSlashes path ++ trail ∧
      (trail = [] ∧ (trimSlashes path).getLast? ≠ some '/' ∨ trail = ['/']) := by
    rw [trimSlashes]
    split
    · rename_i last
      exact ⟨['/'], (List.dropLast_append_getLast? _ last).symm, .inr rfl⟩
    · rename_i last
      exact ⟨[], (List.append_nil _).symm, .inl ⟨rfl, last⟩⟩
  refine ⟨path.takeWhile (· = '/'), trail, ?_, ?_, ?_, behind⟩
  · exact fun c member => of_decide_eq_true (List.all_eq_true.mp List.all_takeWhile c member)
  · rw [← parts, List.takeWhile_append_dropWhile]
  · intro slash
    have apart := List.head?_dropWhile_not (· = '/') path
    rw [parts, List.head?_append, slash] at apart
    cases apart

/-- A path is its parts with slashes between them and around them. -/
theorem exists_framed (path : List Char) : ∃ lead trail, (∀ c ∈ lead, c = '/') ∧
    path = lead ++ (List.intercalate ['/'] (segments path) ++ trail) ∧
    Framed trail (segments path) := by
  obtain ⟨lead, trail, slashes, shape, first, behind⟩ := exists_trimmed path
  have inner := intercalate_segments path
  refine ⟨lead, trail, slashes, by rwa [inner], ?_⟩
  by_cases empty : trimSlashes path = []
  · have none : segments path = [] := by
      rw [segments, empty]
      rfl
    rw [none]
    exact ⟨behind.imp_left And.left, fun _ member => (nomatch member), (nomatch ·), fun _ => (nomatch ·)⟩
  · have free : ∀ piece ∈ segments path, '/' ∉ piece := by
      rw [segments, if_neg (mt List.isEmpty_iff.mp empty)]
      exact fun piece member => not_mem_of_mem_splitOn member
    rw [← inner] at empty
    refine ⟨behind.imp_left And.left, free, ?_, ?_⟩
    · rwa [Ne, ← head?_intercalate_iff free empty, inner]
    · rintro rfl
      rw [Ne, ← getLast?_intercalate_iff free empty, inner]
      rcases behind with ⟨-, last⟩ | slash
      · exact last
      · cases slash

/-- One slash behind a path that does not end in one does not count. -/
theorem segments_append_slash (unended : path.getLast? ≠ some '/') :
    segments (path ++ ['/']) = segments path := by
  obtain ⟨lead, trail, slashes, shape, framed⟩ := exists_framed path
  rcases framed.behind with rfl | rfl
  -- Nothing is behind the parts yet, so the same parts stay framed with a slash there.
  · have closed : Framed ['/'] (segments path) :=
      ⟨.inr rfl, framed.free, framed.first, fun none => nomatch none⟩
    have same := closed.segments_eq slashes
    rwa [← List.append_assoc, ← List.append_nil (List.intercalate _ _), ← shape] at same
  · rw [shape, ← List.append_assoc, List.getLast?_concat] at unended
    exact absurd rfl unended

end Paths

end Telemetry.Route
