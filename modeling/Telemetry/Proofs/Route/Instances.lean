import Mathlib.Data.List.Forall2
import Telemetry.Proofs.Route.Parts
import Telemetry.Proofs.Route.Table
import Telemetry.Route.Patterns

/-! What a template accepts. Its segments are written in its pattern part by part, and it accepts a path
if they agree with the parts of that, one by one; so it accepts whatever its own pattern becomes when
values are put in the places of its captures. The language of the expressions does not matter; only the
template at the end asks for a pattern. -/
namespace Telemetry.Route
open Text

variable {ε : Type} [Expressions ε]

/-! ## Parts and segments -/

/-- That a part of a path is what one segment asks for. Whatever is left of a path is no one part. -/
inductive Segment.Agrees : Segment ε → List Char → Prop where
  | literal (text : List Char) : Agrees (.literal text) text
  | capture (nonempty : part ≠ []) : Agrees (.capture none) part
  | matching (nonempty : part ≠ []) (found : Expressions.isIn demand (String.ofList part) = true) :
      Agrees (.capture (some demand)) part

section Parts
variable {template front : List (Segment ε)} {segment : Segment ε} {part : List Char}
  {parts : List (List Char)}

theorem Segment.fits_iff (one : segment ≠ .catchAll) :
    segment.fits part = true ↔ segment.Agrees part := by
  constructor
  · intro fits
    cases segment with
    | literal text =>
      rw [← of_decide_eq_true fits]
      exact .literal text
    | capture demand =>
      cases demand with
      | none => exact .capture (by simpa [Segment.fits] using fits)
      | some demand =>
        obtain ⟨nonempty, found⟩ := Bool.and_eq_true_iff.mp fits
        exact .matching (by simpa using nonempty) found
    | catchAll => exact absurd rfl one
  · intro agrees
    cases agrees with
    | literal text => exact decide_eq_true rfl
    | capture nonempty => simpa [Segment.fits] using nonempty
    | matching nonempty found => simpa [Segment.fits, found] using nonempty

private theorem fitAll_cons (one : segment ≠ .catchAll) :
    fitAll (segment :: template) parts = true ↔
      ∃ part rest, parts = part :: rest ∧ segment.Agrees part ∧ fitAll template rest = true := by
  cases parts with
  | nil => cases segment <;> simp [fitAll]
  | cons part rest =>
    have step : fitAll (segment :: template) (part :: rest) =
        (segment.fits part && fitAll template rest) := by
      cases segment with
      | catchAll => exact absurd rfl one
      | _ => rfl
    rw [step, Bool.and_eq_true, Segment.fits_iff one]
    simp

/-- Without a catch-all there are as many parts as segments, and they agree one by one. -/
theorem fitAll_iff (plain : ∀ segment ∈ template, segment ≠ .catchAll) :
    fitAll template parts = true ↔ List.Forall₂ Segment.Agrees template parts := by
  induction template generalizing parts with
  | nil => cases parts <;> simp [fitAll]
  | cons segment template ih =>
    obtain ⟨one, others⟩ := List.forall_mem_cons.mp plain
    rw [fitAll_cons one, List.forall₂_cons_left_iff]
    simp only [ih others]
    constructor
    · rintro ⟨part, rest, shape, agrees, later⟩
      exact ⟨part, rest, agrees, later, shape⟩
    · rintro ⟨part, rest, agrees, later, shape⟩
      exact ⟨part, rest, shape, agrees, later⟩

/-- With a catch-all at the end the segments in front of it agree one by one, and some part is left. -/
theorem fitAll_catchAll_iff (plain : ∀ segment ∈ front, segment ≠ .catchAll) :
    fitAll (front ++ [.catchAll]) parts = true ↔
      front.length < parts.length ∧ List.Forall₂ Segment.Agrees front (parts.take front.length) := by
  induction front generalizing parts with
  | nil => cases parts <;> simp [fitAll]
  | cons segment front ih =>
    obtain ⟨one, others⟩ := List.forall_mem_cons.mp plain
    rw [List.cons_append, fitAll_cons one]
    simp only [ih others]
    cases parts with
    | nil => simp
    | cons part rest =>
      rw [List.length_cons, List.length_cons, List.take_succ_cons, List.forall₂_cons,
        Nat.add_lt_add_iff_right]
      constructor
      · rintro ⟨_, _, same, agrees, more, later⟩
        cases same
        exact ⟨more, agrees, later⟩
      · rintro ⟨more, agrees, later⟩
        exact ⟨part, rest, rfl, agrees, more, later⟩

end Parts

/-! ## Reading templates -/

/-- How a segment is written. What stands in braces is a catch-all behind a star; else it is a capture,
which asks for the pattern behind its first colon, if it has one. -/
inductive Segment.WrittenAs : Segment ε → List Char → Prop where
  | literal (bare : ∀ inner, text ≠ '\x7b' :: (inner ++ ['\x7d'])) : WrittenAs (.literal text) text
  | capture (starless : name.head? ≠ some '*') (free : ':' ∉ name) :
      WrittenAs (.capture none) ('\x7b' :: (name ++ ['\x7d']))
  | matching (starless : (name ++ ':' :: expression).head? ≠ some '*') (free : ':' ∉ name)
      (read : Expressions.readWhole (String.ofList expression) = .ok demand) :
      WrittenAs (.capture (some demand)) ('\x7b' :: (name ++ ':' :: expression ++ ['\x7d']))
  | catchAll : WrittenAs .catchAll ('\x7b' :: '*' :: (name ++ ['\x7d']))

/-- How templates are written: segment by segment, and only the last one may be a catch-all. -/
inductive Written : List (Segment ε) → List (List Char) → Prop where
  | nil : Written [] []
  | one {segment : Segment ε} {template : List (Segment ε)} {part : List Char} {parts : List (List Char)}
      (single : segment ≠ .catchAll) (first : segment.WrittenAs part)
      (later : Written template parts) : Written (segment :: template) (part :: parts)
  | rest (last : (Segment.catchAll : Segment ε).WrittenAs part) : Written [.catchAll] [part]

theorem inBraces?_eq_some_iff {part inner : List Char} :
    Template.inBraces? part = some inner ↔ part = '\x7b' :: (inner ++ ['\x7d']) := by
  constructor
  · intro braces
    unfold Template.inBraces? at braces
    split at braces
    · split at braces
      · rename_i closed
        cases braces
        rw [List.dropLast_append_getLast? _ closed]
      · cases braces
    · cases braces
  · rintro rfl
    simp [Template.inBraces?]

private theorem writtenAs_of_readSegment {pattern : String} {last : Bool} {part : List Char}
    {segment : Segment ε} (read : Template.readSegment pattern last part = .ok segment) :
    segment.WrittenAs part ∧ (segment = .catchAll → last = true) := by
  unfold Template.readSegment at read
  split at read
  · rename_i bare
    cases read
    refine ⟨.literal fun inner shape => ?_, (nomatch ·)⟩
    rw [inBraces?_eq_some_iff.mpr shape] at bare
    cases bare
  · rename_i braces
    rw [inBraces?_eq_some_iff.mp braces]
    split at read
    · rename_i ends
      cases read
      exact ⟨.catchAll, fun _ => ends⟩
    · cases read
  · rename_i inner other braces
    have starless : inner.head? ≠ some '*' := by
      intro star
      obtain ⟨name, rfl⟩ := List.head?_eq_some_iff.mp star
      exact other name rfl
    rw [inBraces?_eq_some_iff.mp braces]
    split at read
    · rename_i whole
      cases read
      exact ⟨.capture starless (splitOnce?_eq_none_iff.mp whole), (nomatch ·)⟩
    · rename_i split
      obtain ⟨free, rfl⟩ := splitOnce?_eq_some_iff.mp split
      split at read
      · rename_i demand found
        cases read
        exact ⟨.matching starless free found, (nomatch ·)⟩
      · cases read

private theorem written_of_readSegments {pattern : String} {parts : List (List Char)}
    {template : List (Segment ε)} (read : Template.readSegments pattern parts = .ok template) :
    Written template parts := by
  induction parts generalizing template with
  | nil =>
    cases read
    exact .nil
  | cons part rest ih =>
    rw [Template.readSegments] at read
    split at read
    · cases read
    · rename_i segment first
      split at read
      · cases read
      · rename_i others later
        cases read
        obtain ⟨written, last⟩ := writtenAs_of_readSegment first
        by_cases catchAll : segment = .catchAll
        · obtain rfl := List.isEmpty_iff.mp (last catchAll)
          subst catchAll
          cases later
          exact .rest written
        · exact .one catchAll written (ih later)

/-- What a template was read from is how it is written. -/
theorem written_of_read {pattern : String} {template : Template ε}
    (read : Template.read pattern = .ok template) :
    Written template.segments (segments pattern.toList) :=
  written_of_readSegments (template_of_read read).2

section Written
variable {template : List (Segment ε)} {parts : List (List Char)}

theorem Written.forall₂ (written : Written template parts) :
    List.Forall₂ Segment.WrittenAs template parts := by
  induction written with
  | nil => exact .nil
  | one _ first _ ih => exact .cons first ih
  | rest last => exact .cons last .nil

/-- A template is segments that take one part each, or those and a catch-all. -/
theorem Written.shape (written : Written template parts) :
    ∃ front, (∀ segment ∈ front, segment ≠ .catchAll) ∧
      (template = front ∨ template = front ++ [.catchAll]) := by
  induction written with
  | nil => exact ⟨[], fun _ member => (nomatch member), .inl rfl⟩
  | @one segment _ _ _ single _ _ ih =>
    obtain ⟨front, plain, shape⟩ := ih
    exact ⟨segment :: front, List.forall_mem_cons.mpr ⟨single, plain⟩,
      shape.imp (congrArg _) (congrArg _)⟩
  | rest last => exact ⟨[], fun _ member => (nomatch member), .inr rfl⟩

end Written

/-! ## Putting values in the places of captures -/

/-- What a part of a pattern becomes: a literal stays, a capture gives way to a value that it takes, and a
catch-all to some values with slashes between them. -/
inductive Segment.Becomes : Segment ε → List Char → List Char → Prop where
  | literal (text part : List Char) : Becomes (.literal text) part part
  | capture (part : List Char) (agrees : Segment.Agrees (.capture demand) value)
      (free : '/' ∉ value) : Becomes (.capture demand) part value
  | catchAll (part : List Char) (some : values ≠ [])
      (proper : ∀ value ∈ values, value ≠ [] ∧ '/' ∉ value) :
      Becomes .catchAll part (List.intercalate ['/'] values)

/-- What the parts of a pattern become, one by one. -/
inductive Become : List (Segment ε) → List (List Char) → List (List Char) → Prop where
  | nil : Become [] [] []
  | cons {segment : Segment ε} {template : List (Segment ε)} {part piece : List Char}
      {parts pieces : List (List Char)} (first : segment.Becomes part piece)
      (later : Become template parts pieces) :
      Become (segment :: template) (part :: parts) (piece :: pieces)

/-- The parts that pieces come apart into, as the parts that they took the place of did: `whole` has the
text of the pieces, but the values of a catch-all are parts of their own in it. -/
structure ComesApart (parts pieces whole : List (List Char)) : Prop where
  joined : List.intercalate ['/'] whole = List.intercalate ['/'] pieces
  free : ∀ part ∈ whole, '/' ∉ part
  pieces_nil : pieces = [] ↔ parts = []
  whole_nil : whole = [] ↔ parts = []
  first : whole.head? = some [] → parts.head? = some []
  last : whole.getLast? = some [] → parts.getLast? = some []

section Instances
variable {template : List (Segment ε)} {parts pieces whole : List (List Char)} {part piece : List Char}

/-- A part of one segment becomes a part that agrees, which is empty only where it was empty before. -/
theorem Segment.Becomes.agrees {segment : Segment ε} (becomes : segment.Becomes part piece)
    (single : segment ≠ .catchAll) (written : segment.WrittenAs part) (free : '/' ∉ part) :
    segment.Agrees piece ∧ '/' ∉ piece ∧ (piece = [] → part = []) := by
  cases becomes with
  | literal =>
    cases written
    exact ⟨.literal _, free, id⟩
  | capture _ agrees pieceFree =>
    have nonempty : piece ≠ [] := by
      cases agrees <;> assumption
    exact ⟨agrees, pieceFree, fun empty => absurd empty nonempty⟩
  | catchAll => exact absurd rfl single

private theorem ComesApart.cons (apart : ComesApart parts pieces whole) (free : '/' ∉ piece)
    (kept : piece = [] → part = []) : ComesApart (part :: parts) (piece :: pieces) (piece :: whole) := by
  have stays : some piece = some [] → some part = some [] := by
    intro empty
    rw [kept (Option.some.inj empty)]
  refine ⟨?_, List.forall_mem_cons.mpr ⟨free, apart.free⟩, by simp, by simp, stays, ?_⟩
  · by_cases none : parts = []
    · rw [apart.whole_nil.mpr none, apart.pieces_nil.mpr none]
    · rw [List.intercalate_cons_of_ne_nil (mt apart.whole_nil.mp none), apart.joined,
        List.intercalate_cons_of_ne_nil (mt apart.pieces_nil.mp none)]
  -- The new piece is the last one only where nothing is behind its part either.
  · by_cases none : parts = []
    · rw [apart.whole_nil.mpr none, none]
      exact stays
    · obtain ⟨next, more, rfl⟩ := List.exists_cons_of_ne_nil none
      obtain ⟨value, others, shape⟩ := List.exists_cons_of_ne_nil (mt apart.whole_nil.mp none)
      have last := apart.last
      rw [shape] at last ⊢
      rwa [List.getLast?_cons_cons, List.getLast?_cons_cons]

/-- What the parts of a template become comes apart into parts that the template takes. -/
theorem Written.exists_comesApart (written : Written template parts)
    (becomes : Become template parts pieces) (free : ∀ part ∈ parts, '/' ∉ part) :
    ∃ whole, ComesApart parts pieces whole ∧ fitAll template whole = true := by
  induction written generalizing pieces with
  | nil =>
    cases becomes
    exact ⟨[], ⟨rfl, free, .rfl, .rfl, id, id⟩, rfl⟩
  | one single own _ ih =>
    obtain ⟨ownFree, othersFree⟩ := List.forall_mem_cons.mp free
    cases becomes with
    | @cons _ _ _ piece _ _ first later =>
      obtain ⟨whole, apart, fits⟩ := ih later othersFree
      obtain ⟨agrees, pieceFree, kept⟩ := first.agrees single own ownFree
      exact ⟨piece :: whole, apart.cons pieceFree kept,
        (fitAll_cons single).mpr ⟨piece, whole, rfl, agrees, fits⟩⟩
  | rest last =>
    cases becomes with
    | cons first later =>
      cases later
      cases first with
      | @catchAll values _ some proper =>
        refine ⟨values, ⟨(List.intercalate_singleton ..).symm, fun value member => (proper value member).2,
          by simp, by simpa using some, ?_, ?_⟩, by simpa [fitAll] using some⟩
        · exact fun empty => absurd rfl (proper [] (List.mem_of_head? empty)).1
        · exact fun empty => absurd rfl (proper [] (List.mem_of_getLast? empty)).1

/-- So a path that a pattern becomes is accepted, with whatever slashes stood around the pattern. -/
theorem Written.fitAll_segments {lead trail : List Char} (written : Written template parts)
    (becomes : Become template parts pieces) (framed : Framed trail parts)
    (slashes : ∀ c ∈ lead, c = '/') :
    fitAll template (segments (lead ++ (List.intercalate ['/'] pieces ++ trail))) = true := by
  obtain ⟨whole, apart, fits⟩ := written.exists_comesApart becomes framed.free
  have wholeFramed : Framed trail whole :=
    ⟨framed.behind, apart.free, mt apart.first framed.first, fun bare => mt apart.last (framed.last bare)⟩
  rwa [← apart.joined, wholeFramed.segments_eq slashes]

end Instances

/-! ## Which paths a template accepts -/

/-- A template accepts the paths whose parts agree with its segments one by one; a catch-all takes what is
left, which has to be something. Among them is what its pattern becomes when captures and catch-all give
way to values, and the answer does not depend on slashes in front or on one behind. -/
theorem templates_accept_their_instances {pattern : String} {template : Template ε}
    (read : Template.read pattern = .ok template) :
    List.Forall₂ Segment.WrittenAs template.segments (segments pattern.toList) ∧
    (∃ front, (∀ segment ∈ front, segment ≠ .catchAll) ∧
      (template.segments = front ∧ (∀ path, template.accepts path = true ↔
          List.Forall₂ Segment.Agrees front (segments path.toList)) ∨
        template.segments = front ++ [.catchAll] ∧ (∀ path, template.accepts path = true ↔
          template.segments.length ≤ (segments path.toList).length ∧
            List.Forall₂ Segment.Agrees front ((segments path.toList).take front.length)))) ∧
    (∃ lead trail, (∀ c ∈ lead, c = '/') ∧ Framed trail (segments pattern.toList) ∧
      pattern.toList = lead ++ (List.intercalate ['/'] (segments pattern.toList) ++ trail) ∧
      ∀ pieces, Become template.segments (segments pattern.toList) pieces →
        template.accepts (String.ofList (lead ++ (List.intercalate ['/'] pieces ++ trail))) = true) ∧
    (∀ slashes path, (∀ c ∈ slashes.toList, c = '/') →
      template.accepts (slashes ++ path) = template.accepts path) ∧
    ∀ path, path.toList.getLast? ≠ some '/' →
      template.accepts (path ++ "/") = template.accepts path := by
  have written := written_of_read read
  refine ⟨written.forall₂, ?_, ?_, fun slashes path all => ?_, fun path unended => ?_⟩
  · obtain ⟨front, plain, shape | shape⟩ := written.shape
    · refine ⟨front, plain, .inl ⟨shape, fun path => ?_⟩⟩
      rw [Template.accepts, shape, fitAll_iff plain]
    · refine ⟨front, plain, .inr ⟨shape, fun path => ?_⟩⟩
      rw [Template.accepts, shape, fitAll_catchAll_iff plain, List.length_append]
      exact Iff.rfl
  · obtain ⟨lead, trail, slashes, shape, framed⟩ := exists_framed pattern.toList
    refine ⟨lead, trail, slashes, framed, shape, fun pieces becomes => ?_⟩
    rw [Template.accepts, String.toList_ofList]
    exact written.fitAll_segments becomes framed slashes
  · rw [Template.accepts, Template.accepts, String.toList_append, segments_append all]
  · rw [Template.accepts, Template.accepts, String.toList_append]
    exact congrArg _ (segments_append_slash unended)

/-- A pattern whose parts are a literal, a capture for some kinds of files, and a catch-all. -/
def assetsPattern : String := "//assets/\x7bkind:[a-z]+\x7d/\x7b*file\x7d/"

/-- Texts that are nothing but small letters. -/
def smallLetters : Pattern :=
  .seq (.look .textStart)
    (.seq (.repeated (.chars [('a'.toNat, 'z'.toNat)]) 1 none true) (.look .textEnd))

/-- What the pattern reads as. -/
def assets : Template Pattern :=
  ⟨assetsPattern, [.literal "assets".toList, .capture (some smallLetters), .catchAll]⟩

private theorem read_assetsPattern : Template.read assetsPattern = .ok assets := by
  with_unfolding_all rfl

/-- One of the things that its parts become. -/
private theorem assetsPattern_becomes : Become assets.segments (segments assetsPattern.toList)
    ["assets".toList, "css".toList, "site/dark.css".toList] := by
  refine .cons (.literal _ _) (.cons (.capture _ ?_ (by decide)) (.cons ?_ .nil))
  · exact .matching (by decide) (by decide +kernel)
  · exact @Segment.Becomes.catchAll _ _ ["site".toList, "dark.css".toList] _ (by decide) (by decide)

/-- A file in a directory is accepted, with more slashes around it too; the directory is not. -/
theorem assets_accepts_files :
    Template.read assetsPattern = .ok assets ∧
      assets.accepts "/assets/css/site/dark.css" = true ∧
      assets.accepts ("///" ++ "/assets/css/site/dark.css") = true ∧
      assets.accepts ("/assets/css/site/dark.css" ++ "/") = true ∧
      assets.accepts "/assets/css" = false ∧
      ∃ lead trail, assets.accepts
        (String.ofList (lead ++ ("assets/css/site/dark.css".toList ++ trail))) = true := by
  obtain ⟨-, ⟨front, plain, shape⟩, ⟨lead, trail, -, -, -, instances⟩, ahead, behind⟩ :=
    templates_accept_their_instances read_assetsPattern
  rcases shape with ⟨same, -⟩ | ⟨same, accepted⟩
  · exact absurd rfl (plain .catchAll (by simp [← same, assets]))
  · obtain rfl : [.literal "assets".toList, .capture (some smallLetters)] = front :=
      List.append_cancel_right same
    have inside : assets.accepts "/assets/css/site/dark.css" = true := by
      refine (accepted _).mpr ⟨by decide, ?_⟩
      exact .cons (.literal _) (.cons (.matching (by decide) (by decide +kernel)) .nil)
    refine ⟨read_assetsPattern, inside, ?_, ?_, ?_, lead, trail, ?_⟩
    · exact (ahead "///" _ (by simp)).trans inside
    · exact (behind "/assets/css/site/dark.css" (by decide)).trans inside
    · exact Bool.eq_false_iff.mpr fun accepts => absurd ((accepted _).mp accepts).1 (by decide)
    · have joined : List.intercalate ['/'] ["assets".toList, "css".toList, "site/dark.css".toList] =
          "assets/css/site/dark.css".toList := by decide
      rw [← joined]
      exact instances _ assetsPattern_becomes

end Telemetry.Route
