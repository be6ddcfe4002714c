import Telemetry.Proofs.Text.Blank
import Telemetry.Proofs.Text.Lines
import Telemetry.Proofs.Web.TypeName

/-! Types as they are spelled: a path with generic arguments, a trait object with bounds, or an owning
pointer to a type, to any depth. The first bracket or plus sign stands behind the path of the outermost
type, so a turn takes one pointer off, and the last turn cuts arguments and bounds off, whatever they
are. -/
namespace Telemetry.TypeName
variable {rest : List Char}

/-- Whether a character may stand in a segment of a path: it is neither white space nor a mark that
stands around names. -/
def isInSegment (c : Char) : Bool := !Text.isBlank c && !endsPath c && c != ':'

/-- A segment of a path. A signature such as `Fn(u8) -> u8` is none. -/
structure Segment where
  text : List Char
  nonempty : text ≠ [] := by decide
  proper : text.all isInSegment = true := by decide

/-- A path: a last segment, maybe with qualifiers in front. -/
structure Path where
  qualifiers : List Segment
  last : Segment

def Path.text (path : Path) : List Char :=
  (path.qualifiers.flatMap fun segment => segment.text ++ [':', ':']) ++ path.last.text

/-- Generic arguments between their brackets; nothing if there are none. -/
def argumentsText (arguments : List (List Char)) : List Char :=
  if arguments = [] then [] else '<' :: ([',', ' '].intercalate arguments ++ ['>'])

/-- The bounds behind a trait. -/
def boundsText (bounds : List (List Char)) : List Char := bounds.flatMap ([' ', '+', ' '] ++ ·)

/-- A type as it is spelled. Generic arguments and bounds may be any texts. -/
inductive Spelling where
  | named (path : Path) (arguments : List (List Char)) (own : path.last.text ∉ pointers)
  | object (path : Path) (arguments bounds : List (List Char)) (own : path.last.text ∉ pointers)
  | pointer (path : Path) (owning : path.last.text ∈ pointers) (pointee : Spelling)

namespace Spelling

def text : Spelling → List Char
  | named path arguments _ => path.text ++ argumentsText arguments
  | object path arguments bounds _ =>
    ['d', 'y', 'n', ' '] ++ (path.text ++ (argumentsText arguments ++ boundsText bounds))
  | pointer path _ pointee => path.text ++ '<' :: (pointee.text ++ ['>'])

/-- How many pointers are around the innermost type. -/
def depth : Spelling → Nat
  | named _ _ _ | object _ _ _ _ => 0
  | pointer _ _ pointee => pointee.depth + 1

/-- The last segment of the path of the innermost type. -/
def baseName : Spelling → List Char
  | named path _ _ | object path _ _ _ => path.last.text
  | pointer _ _ pointee => pointee.baseName

end Spelling

/-! ## Paths -/

private theorem Segment.mem_text {c : Char} (segment : Segment) (member : c ∈ segment.text) :
    Text.isBlank c = false ∧ endsPath c = false ∧ c ≠ ':' := by
  have proper := List.all_eq_true.mp segment.proper c member
  simpa [isInSegment, and_assoc] using proper

private theorem untilColons_of_not_mem {text : List Char} (whole : ':' ∉ text) :
    untilColons text = text := by
  fun_induction untilColons text with
  | case1 => rfl
  | case2 rest => exact absurd List.mem_cons_self whole
  | case3 c rest apart ih => rw [ih (List.not_mem_of_not_mem_cons whole)]

private theorem untilColons_append {text : List Char} (whole : ':' ∉ text) (back : List Char) :
    untilColons (text ++ ':' :: ':' :: back) = text := by
  induction text with
  | nil => rfl
  | cons c tail ih =>
    have apart : c ≠ ':' := (List.ne_of_not_mem_cons whole).symm
    rw [List.cons_append, untilColons, ih (List.not_mem_of_not_mem_cons whole)]
    exact fun _ colon => absurd colon apart

namespace Path
variable (path : Path)

private theorem lastSegment_text : lastSegment path.text = path.last.text := by
  have whole : ':' ∉ path.last.text.reverse := by
    rw [List.mem_reverse]
    exact fun colon => (path.last.mem_text colon).2.2 rfl
  obtain ⟨qualifiers, last⟩ := path
  rw [lastSegment, text]
  rcases List.eq_nil_or_concat qualifiers with rfl | ⟨front, segment, rfl⟩
  · rw [List.flatMap_nil, List.nil_append, untilColons_of_not_mem whole, List.reverse_reverse]
  · simp only [List.concat_eq_append, List.flatMap_append, List.flatMap_singleton,
      List.reverse_append, List.reverse_cons, List.reverse_nil, List.nil_append, List.cons_append]
    rw [untilColons_append whole, List.reverse_reverse]

private theorem mem_text {c : Char} (member : c ∈ path.text) :
    Text.isBlank c = false ∧ endsPath c = false := by
  rw [text, List.mem_append, List.mem_flatMap] at member
  rcases member with ⟨segment, -, inside⟩ | inside
  · rcases List.mem_append.mp inside with own | colon
    · exact ⟨(segment.mem_text own).1, (segment.mem_text own).2.1⟩
    · obtain rfl : c = ':' := by simpa using colon
      decide
  · exact ⟨(path.last.mem_text inside).1, (path.last.mem_text inside).2.1⟩

private theorem text_ne_nil : path.text ≠ [] := by
  rw [text]
  exact List.append_ne_nil_of_right_ne_nil _ path.last.nonempty

private theorem trimmed_text : Text.Trimmed path.text :=
  ⟨fun _ first => (path.mem_text (List.mem_of_head? first)).1,
    fun _ last => (path.mem_text (List.mem_of_getLast? last)).1⟩

end Path

/-! ## What stands behind a path -/

/-- What may stand behind a path: nothing but white space up to a bracket, a plus sign or the end. -/
def Behind (rest : List Char) : Prop :=
  ∀ c ∈ (rest.dropWhile Text.isBlank).head?, endsPath c = true

private theorem isBlank_of_endsPath {c : Char} (ends : endsPath c = true) :
    Text.isBlank c = false := by
  rw [endsPath, Bool.or_eq_true, decide_eq_true_iff, decide_eq_true_iff] at ends
  rcases ends with rfl | rfl <;> decide

private theorem behind_of_head? (ends : ∀ c ∈ rest.head?, endsPath c = true) : Behind rest := by
  rw [Behind, Text.dropWhile_blank_eq_self fun c first => isBlank_of_endsPath (ends c first)]
  exact ends

private theorem Behind.trimEnd (behind : Behind rest) : Behind (Text.trimEnd rest) := by
  obtain ⟨blanks, -, split⟩ := Text.exists_blanks_of_trimEnd rest
  intro c first
  obtain ⟨more, shape⟩ := List.head?_eq_some_iff.mp first
  apply behind
  rw [split, List.dropWhile_append, shape]
  rfl

private theorem endsPath_of_head?_argumentsText (arguments : List (List Char)) :
    ∀ c ∈ (argumentsText arguments).head?, endsPath c = true := by
  unfold argumentsText
  split <;> simp [endsPath]

private theorem behind_arguments_bounds (arguments bounds : List (List Char)) :
    Behind (argumentsText arguments ++ boundsText bounds) := by
  unfold argumentsText
  split
  · cases bounds with
    | nil => simp [Behind, boundsText]
    | cons bound others =>
      have space : Text.isBlank ' ' = true := by decide
      have sign : Text.isBlank '+' = false := by decide
      simp [Behind, boundsText, space, sign, endsPath]
  · exact behind_of_head? (by simp [endsPath])

namespace Path
variable (path : Path)

/-- Whatever stands behind a path, a type is called by the last segment. -/
theorem pathName_append (behind : Behind rest) : pathName (path.text ++ rest) = path.last.text := by
  have passes : ∀ c ∈ path.text ++ rest.takeWhile Text.isBlank, (!endsPath c) = true := by
    intro c member
    rw [Bool.not_eq_true', ← Bool.not_eq_true]
    intro ends
    rcases List.mem_append.mp member with own | space
    · rw [(path.mem_text own).2] at ends
      cases ends
    · have blank := List.all_eq_true.mp List.all_takeWhile c space
      rw [isBlank_of_endsPath ends] at blank
      cases blank
  have stops : ∀ c ∈ (rest.dropWhile Text.isBlank).head?, (!endsPath c) = false := by
    intro c first
    rw [behind c first, Bool.not_true]
  have head : (path.text ++ rest).takeWhile (!endsPath ·) =
      path.text ++ rest.takeWhile Text.isBlank := by
    have cut := (Text.takeWhile_dropWhile_append passes stops).1
    rwa [List.append_assoc, List.takeWhile_append_dropWhile] at cut
  rw [pathName, head, Text.trimEnd_append path.trimmed_text.2,
    Text.trimEnd_of_blank (List.all_eq_true.mp List.all_takeWhile), List.append_nil,
    path.lastSegment_text]

private theorem takeWhile_dropWhile_text (ends : ∀ c ∈ rest.head?, endsPath c = true) :
    (path.text ++ rest).takeWhile (!endsPath ·) = path.text ∧
      (path.text ++ rest).dropWhile (!endsPath ·) = rest := by
  refine Text.takeWhile_dropWhile_append (fun c member => ?_) fun c first => ?_
  · rw [(path.mem_text member).2, Bool.not_false]
  · rw [ends c first, Bool.not_true]

/-- A path does not begin like a trait object, since there is no white space up to its end. -/
private theorem stripDyn_append (ends : ∀ c ∈ rest.head?, endsPath c = true) :
    stripDyn (path.text ++ rest) = path.text ++ rest := by
  unfold stripDyn
  split
  · rename_i more shape
    have cut := (path.takeWhile_dropWhile_text ends).1
    rw [shape] at cut
    have space : ' ' ∈ path.text := by
      rw [← cut]
      simp [endsPath]
    exact absurd (path.mem_text space).1 (by decide)
  · rfl

private theorem bare_append (ends : ∀ c ∈ rest.head?, endsPath c = true) :
    bare (path.text ++ rest) = path.text ++ Text.trimEnd rest := by
  rw [bare, path.trimmed_text.trim_append_eq path.text_ne_nil]
  exact path.stripDyn_append fun c first => ends c (Text.head?_trimEnd first)

private theorem bare_object (rest : List Char) :
    bare (['d', 'y', 'n', ' '] ++ (path.text ++ rest)) = path.text ++ Text.trimEnd rest := by
  have trimmed : Text.Trimmed (['d', 'y', 'n', ' '] ++ path.text) := by
    refine ⟨fun c first => ?_, fun c last => path.trimmed_text.2 c ?_⟩
    · cases first
      decide
    · rwa [List.getLast?_append, List.getLast?_eq_some_getLast path.text_ne_nil, Option.some_or,
        ← List.getLast?_eq_some_getLast path.text_ne_nil] at last
  rw [bare, ← List.append_assoc, trimmed.trim_append_eq (List.cons_ne_nil _ _)]
  rfl

/-- The turns end on a path, unless it is that of a pointer. -/
theorem ends_of_bare {fullName : List Char} (shape : bare fullName = path.text ++ rest)
    (behind : Behind rest) (own : path.last.text ∉ pointers) : Ends fullName 0 path.last.text := by
  have named : pathName (bare fullName) = path.last.text := by
    rw [shape, path.pathName_append behind]
  have last : pointee? (bare fullName) = none := by
    rw [Option.eq_none_iff_forall_ne_some]
    intro inner pointer
    exact own (named ▸ (pointee?_eq_some_iff.mp pointer).1)
  rw [← named]
  exact .here last

/-- A pointer is looked through: what stands between the outer brackets comes next. -/
private theorem pointee?_bare (owning : path.last.text ∈ pointers) (inner : List Char) :
    pointee? (bare (path.text ++ '<' :: (inner ++ ['>']))) = some inner := by
  have closed : Text.trimEnd ('<' :: (inner ++ ['>'])) = '<' :: (inner ++ ['>']) := by
    refine Text.trimEnd_eq_self fun c last => ?_
    rw [← List.cons_append, List.getLast?_concat] at last
    cases last
    decide
  have ends : ∀ c ∈ ('<' :: (inner ++ ['>'])).head?, endsPath c = true := by simp [endsPath]
  rw [path.bare_append ends, closed, pointee?_eq_some_iff, path.pathName_append (behind_of_head? ends)]
  exact ⟨owning, (path.takeWhile_dropWhile_text ends).2⟩

end Path

/-- The turns on a spelled type are as many as there are pointers around the innermost one. -/
theorem Spelling.ends (spelling : Spelling) : Ends spelling.text spelling.depth spelling.baseName := by
  induction spelling with
  | named path arguments own =>
    have head := endsPath_of_head?_argumentsText arguments
    exact path.ends_of_bare (path.bare_append head) (behind_of_head? head).trimEnd own
  | object path arguments bounds own =>
    -- The last bound may end in white space, which is trimmed away; it is behind the path either way.
    exact path.ends_of_bare (path.bare_object _) (behind_arguments_bounds arguments bounds).trimEnd own
  | pointer path owning pointee ih => exact .through (path.pointee?_bare owning pointee.text) ih

/-- **Short names are those of innermost types.** On every text the turns come to an end, and only to
one, after at most a quarter as many of them as there are characters; in the name that they end with
there is no bracket, no plus sign and no pair of colons. And however many owning pointers are around a
type, each with its path, one turn looks through each of them, and the name is the last segment of the
path of the type inside, without generic arguments, without the mark of a trait object and without
bounds, whatever these are. -/
theorem short_names_are_innermost :
    (∀ fullName : String,
      let name := (simpleName fullName).toList
      (∃ turns, Ends fullName.toList turns name ∧ 4 * turns ≤ fullName.length ∧
        ∀ others other, Ends fullName.toList others other → others = turns ∧ other = name) ∧
      '<' ∉ name ∧ '+' ∉ name ∧ ¬ [':', ':'] <:+: name) ∧
    ∀ spelling : Spelling,
      simpleName (String.ofList spelling.text) = String.ofList spelling.baseName ∧
      Ends spelling.text spelling.depth spelling.baseName := by
  constructor
  · intro fullName name
    have same : name = simple fullName.toList := String.toList_ofList
    obtain ⟨turns, ends, few⟩ := exists_ends fullName.toList
    rw [← same] at ends
    obtain ⟨within, whole⟩ := ends.free
    refine ⟨⟨turns, ends, few, fun others other again => ⟨?_, ?_⟩⟩, ?_, ?_, whole⟩
    · exact ends.turns_unique again
    · rw [same, again.simple_eq]
    · exact fun member => absurd (within '<' member) (by decide)
    · exact fun member => absurd (within '+' member) (by decide)
  · intro spelling
    refine ⟨?_, spelling.ends⟩
    rw [simpleName, String.toList_ofList, spelling.ends.simple_eq]

example :
    let owner : Path :=
      ⟨[{ text := "alloc".toList }, { text := "sync".toList }], { text := "Arc".toList }⟩
    let kind : Path := ⟨[{ text := "app".toList }], { text := "Fault".toList }⟩
    let spelling : Spelling := .pointer owner (by decide)
      (.object kind ["alloc::boxed::Box<u8>".toList] ["core::marker::Send".toList] (by decide))
    String.ofList spelling.text =
      "alloc::sync::Arc<dyn app::Fault<alloc::boxed::Box<u8>> + core::marker::Send>" ∧
    spelling.baseName = "Fault".toList := by
  decide

end Telemetry.TypeName
