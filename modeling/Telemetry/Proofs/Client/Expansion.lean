import Mathlib.Logic.ExistsUnique
import Telemetry.Client.Basic
import Telemetry.Proofs.Text.Lines

/-! Address templates and their parts. The parts of a template can be told from its text, because a
placeholder ends at the first closing brace behind the first opening one; so there is one way to take
a template apart, and filling it in is putting values between its literals. -/
namespace Telemetry.Client

namespace Expansion
variable {c : Char} {chars before after : List Char} {parts : Expansion}

/-! ## Cutting at a character -/

private theorem splitAt?_eq_splitOnce? (c : Char) (chars : List Char) :
    splitAt? c chars = Text.splitOnce? c chars := by
  induction chars with
  | nil => rfl
  | cons d rest ih =>
    rw [splitAt?]
    by_cases same : d = c
    · simp [same, Text.splitOnce?]
    · rw [if_neg same, ih]
      simp only [Text.splitOnce?, List.dropWhile_cons, List.takeWhile_cons, decide_eq_true same]
      cases rest.dropWhile (· ≠ c) <;> rfl

theorem splitAt?_eq_none_iff : splitAt? c chars = none ↔ c ∉ chars := by
  rw [splitAt?_eq_splitOnce?, Text.splitOnce?_eq_none_iff]

theorem splitAt?_eq_some_iff :
    splitAt? c chars = some (before, after) ↔ c ∉ before ∧ chars = before ++ c :: after := by
  rw [splitAt?_eq_splitOnce?, Text.splitOnce?_eq_some_iff]

private theorem splitAt?_append (free : c ∉ before) (after : List Char) :
    splitAt? c (before ++ c :: after) = some (before, after) :=
  splitAt?_eq_some_iff.mpr ⟨free, rfl⟩

/-- What stands behind any occurrence of a character stands behind the first one. -/
theorem suffix_of_cut (free : c ∉ before) {front back : List Char}
    (same : before ++ c :: after = front ++ c :: back) : back <:+ after := by
  induction before generalizing front with
  | nil =>
    cases front with
    | nil => exact (List.cons.inj same).2 ▸ List.suffix_rfl
    | cons d rest => exact (List.cons.inj same).2 ▸ (List.suffix_cons c back).trans (List.suffix_append rest _)
  | cons d rest ih =>
    cases front with
    | nil => exact absurd (List.cons.inj same).1.symm (List.ne_of_not_mem_cons free)
    | cons e more => exact ih (List.not_mem_of_not_mem_cons free) (List.cons.inj same).2

/-! ## The parts of a template -/

/-- Parts that can be told from the text: no literal in front of a placeholder opens one, no
placeholder is closed within, and what stands at the end opens none that is closed. -/
structure Proper (parts : Expansion) : Prop where
  literals : ∀ placeholder ∈ parts.placeholders, '\x7b' ∉ placeholder.1
  names : ∀ placeholder ∈ parts.placeholders, '\x7d' ∉ placeholder.2
  rest : ∀ before after, parts.rest = before ++ '\x7b' :: after → '\x7d' ∉ after

private theorem proper_of_rest {rest : List Char}
    (unclosed : ∀ before after, rest = before ++ '\x7b' :: after → '\x7d' ∉ after) :
    Proper ⟨[], rest⟩ :=
  ⟨List.forall_mem_nil _, List.forall_mem_nil _, unclosed⟩

private theorem text_cons (literal name : List Char) (more : List (List Char × List Char))
    (rest : List Char) :
    text ⟨(literal, name) :: more, rest⟩ =
      literal ++ '\x7b' :: (name ++ '\x7d' :: text ⟨more, rest⟩) := by
  simp [text, braced]

private theorem read_of_placeholder {template literal opened name rest : List Char}
    (opens : splitAt? '\x7b' template = some (literal, opened))
    (closes : splitAt? '\x7d' opened = some (name, rest)) :
    read template = ⟨(literal, name) :: (read rest).placeholders, (read rest).rest⟩ := by
  rw [read]
  split
  · rename_i unopened
    rw [opens] at unopened
    cases unopened
  · rename_i foundOpen
    rw [opens] at foundOpen
    cases foundOpen
    split
    · rename_i unclosed
      rw [closes] at unclosed
      cases unclosed
    · rename_i foundClose
      rw [closes] at foundClose
      cases foundClose
      rfl

/-- Reading takes a template apart and loses nothing. -/
private theorem text_read (template : List Char) : (read template).text = template := by
  fun_induction read template with
  | case1 template unopened => rfl
  | case2 template literal opened found unclosed => rfl
  | case3 template literal opened foundOpen name rest foundClose expansion ih =>
    obtain ⟨-, rfl⟩ := splitAt?_eq_some_iff.mp foundOpen
    obtain ⟨-, rfl⟩ := splitAt?_eq_some_iff.mp foundClose
    rw [text_cons]
    congr 3
    exact congrArg _ ih

private theorem proper_read (template : List Char) : (read template).Proper := by
  fun_induction read template with
  | case1 template unopened =>
    refine proper_of_rest ?_
    rintro before after rfl
    exact absurd (by simp) (splitAt?_eq_none_iff.mp unopened)
  | case2 template literal opened foundOpen unclosed =>
    refine proper_of_rest fun before after shape closed => ?_
    obtain ⟨free, same⟩ := splitAt?_eq_some_iff.mp foundOpen
    -- `shape` may cut at a later opening brace than reading does, but then less is behind it.
    have behind : after <:+ opened := suffix_of_cut free (same.symm.trans shape)
    exact splitAt?_eq_none_iff.mp unclosed (behind.subset closed)
  | case3 template literal opened foundOpen name rest foundClose expansion ih =>
    refine ⟨?_, ?_, ih.rest⟩
    · exact List.forall_mem_cons.mpr ⟨(splitAt?_eq_some_iff.mp foundOpen).1, ih.literals⟩
    · exact List.forall_mem_cons.mpr ⟨(splitAt?_eq_some_iff.mp foundClose).1, ih.names⟩

/-- Proper parts are read from their own text. -/
theorem Proper.read_text (proper : parts.Proper) : read parts.text = parts := by
  obtain ⟨placeholders, rest⟩ := parts
  induction placeholders with
  | nil =>
    change read rest = _
    rw [read]
    split
    · rfl
    · rename_i literal opened foundOpen
      have unclosed := proper.rest literal opened (splitAt?_eq_some_iff.mp foundOpen).2
      rw [splitAt?_eq_none_iff.mpr unclosed]
  | cons placeholder more ih =>
    obtain ⟨literal, name⟩ := placeholder
    have tail : Proper ⟨more, rest⟩ :=
      ⟨fun other member => proper.literals other (List.mem_cons_of_mem _ member),
        fun other member => proper.names other (List.mem_cons_of_mem _ member), proper.rest⟩
    have opens := splitAt?_append (proper.literals _ List.mem_cons_self)
      (name ++ '\x7d' :: text ⟨more, rest⟩)
    have closes := splitAt?_append (proper.names _ List.mem_cons_self) (text ⟨more, rest⟩)
    rw [text_cons, read_of_placeholder opens closes, ih tail]

/-! ## Filling a template in -/

/-- A text with a value in the place of each placeholder. Values stand in it as they are. -/
inductive Filled : Expansion → List (List Char) → List Char → Prop where
  | ending (ending : List Char) : Filled ⟨[], ending⟩ [] ending
  | value (literal name value : List Char) (filled : Filled ⟨more, ending⟩ values filling) :
      Filled ⟨(literal, name) :: more, ending⟩ (value :: values) (literal ++ (value ++ filling))

private theorem filled_fill {values : List (List Char)}
    (one : values.length = parts.placeholders.length) :
    parts.Filled values (parts.fill values) := by
  obtain ⟨placeholders, rest⟩ := parts
  induction placeholders generalizing values with
  | nil =>
    cases List.eq_nil_of_length_eq_zero one
    exact .ending rest
  | cons placeholder more ih =>
    cases values with
    | nil => cases one
    | cons value values =>
      have filled := Filled.value placeholder.1 placeholder.2 value (ih (Nat.succ.inj one))
      simpa [fill, List.append_assoc] using filled

private theorem Filled.rest_suffix {values : List (List Char)} (filled : parts.Filled values chars) :
    parts.rest <:+ chars := by
  induction filled with
  | ending => exact List.suffix_rfl
  | value literal name value filled ih =>
    exact (ih.trans (List.suffix_append value _)).trans (List.suffix_append literal _)

/-- An end without a character is an end of what stands behind that character. -/
private theorem suffix_of_free {tail front back : List Char} (free : c ∉ tail)
    (ends : tail <:+ front ++ c :: back) : tail <:+ back := by
  rcases List.suffix_or_suffix_of_suffix ends (List.suffix_append front (c :: back)) with
    inside | around
  · rcases List.suffix_cons_iff.mp inside with rfl | inside
    · exact absurd List.mem_cons_self free
    · exact inside
  · exact absurd (around.subset List.mem_cons_self) free

/-- What stands behind the last closing brace belongs to no placeholder. -/
private theorem suffix_rest {tail : List Char} (free : '\x7d' ∉ tail) (ends : tail <:+ parts.text) :
    tail <:+ parts.rest := by
  obtain ⟨placeholders, rest⟩ := parts
  induction placeholders with
  | nil => exact ends
  | cons placeholder more ih =>
    rw [text_cons, ← List.cons_append, ← List.append_assoc] at ends
    exact ih (suffix_of_free free ends)

end Expansion

/-- Whatever proper parts make up a template, it is filled in by them. -/
theorem Expansion.Proper.expand_eq {parts : Expansion} {template : String} (proper : parts.Proper)
    (same : parts.text = template.toList) (values : List String) :
    expand template values =
      if parts.placeholders.length = values.length then
        .ok (String.ofList (parts.fill (values.map String.toList)))
      else .error (.arity template parts.placeholders.length values.length) := by
  have own : Expansion.read template.toList = parts := by rw [← same, proper.read_text]
  simp only [expand, own]

/-- **Templates are filled in once.** A template has one way to be taken apart into literals and
placeholders. With one value for each placeholder it becomes the literals with the values between
them, whatever the values hold; with any other number of values it is refused. What stands behind the
last closing brace stays, and so does an opening brace there, which nothing closes. -/
theorem templates_are_filled_once (template : String) :
    (∃! parts : Expansion, parts.Proper ∧ parts.text = template.toList) ∧
    ∀ parts : Expansion, parts.Proper → parts.text = template.toList → ∀ values : List String,
      (values.length = parts.placeholders.length →
        ∃ filling, expand template values = .ok filling ∧
          parts.Filled (values.map String.toList) filling.toList ∧
          ∀ tail, '\x7d' ∉ tail → tail <:+ template.toList → tail <:+ filling.toList) ∧
      (values.length ≠ parts.placeholders.length →
        expand template values =
          .error (.arity template parts.placeholders.length values.length)) := by
  refine ⟨⟨Expansion.read template.toList, ⟨Expansion.proper_read _, Expansion.text_read _⟩, ?_⟩, ?_⟩
  · rintro parts ⟨proper, same⟩
    rw [← same, proper.read_text]
  · intro parts proper same values
    rw [proper.expand_eq same]
    refine ⟨fun one => ?_, fun other => if_neg other.symm⟩
    have filled : parts.Filled (values.map String.toList) (parts.fill (values.map String.toList)) :=
      Expansion.filled_fill (by rwa [List.length_map])
    refine ⟨_, if_pos one.symm, ?_, ?_⟩
    · rwa [String.toList_ofList]
    · intro tail free ends
      rw [← same] at ends
      rw [String.toList_ofList]
      exact (Expansion.suffix_rest free ends).trans filled.rest_suffix

/-- Values with braces, behind a placeholder that holds an opening brace. -/
theorem braces_in_values_stay :
    let template := "/a/\x7bx\x7d/\x7bb\x7bc\x7d\x7d/\x7bd"
    let parts : Expansion :=
      ⟨[("/a/".toList, "x".toList), ("/".toList, "b\x7bc".toList)], "\x7d/\x7bd".toList⟩
    let values := ["\x7by\x7d", "\x7b"]
    parts.Proper ∧ parts.text = template.toList ∧ values.length = parts.placeholders.length ∧
      (∃ filling, expand template values = .ok filling ∧
        parts.Filled (values.map String.toList) filling.toList) ∧
      expand template values = .ok "/a/\x7by\x7d/\x7b\x7d/\x7bd" ∧
      expand template ["1"] = .error (.arity template 2 1) := by
  intro template parts values
  have proper : parts.Proper := by
    refine ⟨by decide, by decide, fun before after shape closed => ?_⟩
    have free : '\x7b' ∉ "\x7d/".toList := by decide
    exact absurd ((Expansion.suffix_of_cut free shape).subset closed) (by decide)
  have same : parts.text = template.toList := by decide
  obtain ⟨filling, filled, shape, -⟩ :=
    ((templates_are_filled_once template).2 parts proper same values).1 rfl
  have refused := ((templates_are_filled_once template).2 parts proper same ["1"]).2 (by decide)
  refine ⟨proper, same, rfl, ⟨filling, filled, shape⟩, ?_, refused⟩
  exact (proper.expand_eq same values).trans (if_pos rfl)

end Telemetry.Client
