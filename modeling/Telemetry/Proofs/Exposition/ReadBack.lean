import Mathlib.Data.List.TakeWhile
import Telemetry.Proofs.Exposition.Reader

/-! Reading what was written. Of the families nothing is asked but plain names, plain label names and
plain values; help texts and label values may hold any characters at all, and come back as they
were, because no escape of theirs can be taken for a quote, a brace or the end of a line. -/
namespace Telemetry.Exposition

/-- A character of a number: no space, and nothing that ends a line. -/
def isNumberChar (c : Char) : Bool := c.isAlphanum || c = '.' || c = '-' || c = '+'

/-- What a sample must be like for its line to be read: only its label values are free. -/
structure Sample.Plain (sample : Sample) : Prop where
  metric : ∀ c ∈ sample.metric.toList, isNameChar c = true
  labels : ∀ label ∈ sample.labels, ∀ c ∈ label.1.toList, Reader.isLabelChar c = true
  value : sample.value ≠ ""
  valueChars : ∀ c ∈ sample.value.toList, isNumberChar c = true

/-- The sample as a reader should see it. -/
def Sample.asRead (sample : Sample) : SampleLine :=
  ⟨sample.series, sample.metric, sample.labels, sample.value⟩

/-- The family as a reader should see it. -/
def Family.asRead (descriptions : Bool) (name : String) (family : Family) : Block where
  name := name
  help := if descriptions then some family.help else none
  type := family.type
  samples := family.samples.map Sample.asRead

/-! ## Escapes -/

/-- A text with every occurrence of a character replaced. -/
def substitute (replaced : Char) (replacement text : List Char) : List Char :=
  text.flatMap fun c => if c = replaced then replacement else [c]

private theorem substitute_cons (replaced c : Char) (replacement rest : List Char) :
    substitute replaced replacement (c :: rest) =
      (if c = replaced then replacement else [c]) ++ substitute replaced replacement rest :=
  List.flatMap_cons

private theorem substitute_append (replaced : Char) (replacement front back : List Char) :
    substitute replaced replacement (front ++ back) =
      substitute replaced replacement front ++ substitute replaced replacement back :=
  List.flatMap_append

/-- Escaping backslashes, then quotes, then newlines, is one pass: no replacement finds anything to
replace in what an earlier one has put in. -/
theorem escapeLabel_eq_substitute (value : String) :
    (escapeLabel value).toList =
      substitute '\n' ['\\', 'n'] (substitute '"' ['\\', '"']
        (substitute '\\' ['\\', '\\'] value.toList)) := by
  rw [escapeLabel, String.toList_ofList]
  induction value.toList with
  | nil => rfl
  | cons c rest ih =>
    rw [List.flatMap_cons, ih, substitute_cons, substitute_append, substitute_append]
    congr 1
    by_cases escape : c = '\\'
    · subst escape
      decide
    by_cases quote : c = '"'
    · subst quote
      decide
    by_cases newline : c = '\n'
    · subst newline
      decide
    · simp [substitute, escapeLabelChar, escape, quote, newline]

theorem escapeHelp_eq_substitute (help : String) :
    (escapeHelp help).toList =
      substitute '\n' ['\\', 'n'] (substitute '\\' ['\\', '\\'] help.toList) := by
  rw [escapeHelp, String.toList_ofList]
  induction help.toList with
  | nil => rfl
  | cons c rest ih =>
    rw [List.flatMap_cons, ih, substitute_cons, substitute_append]
    congr 1
    by_cases escape : c = '\\'
    · subst escape
      decide
    by_cases newline : c = '\n'
    · subst newline
      decide
    · simp [substitute, escapeHelpChar, escape, newline]

namespace Reader

private theorem unescapeLabel?_plain {c : Char} (notQuote : c ≠ '"') (notEscape : c ≠ '\\')
    (text : List Char) :
    unescapeLabel? (c :: text) = (unescapeLabel? text).map fun (value, rest) => (c :: value, rest) := by
  rw [unescapeLabel?.eq_def]
  split <;> simp_all

private theorem unescapeLabel?_escape (value rest : List Char) :
    unescapeLabel? (value.flatMap escapeLabelChar ++ '"' :: rest) = some (value, rest) := by
  induction value with
  | nil => rfl
  | cons c tail ih =>
    rw [List.flatMap_cons, List.append_assoc]
    by_cases escape : c = '\\'
    · subst escape
      simp [escapeLabelChar, unescapeLabel?, ih]
    by_cases quote : c = '"'
    · subst quote
      simp [escapeLabelChar, unescapeLabel?, ih]
    by_cases newline : c = '\n'
    · subst newline
      simp [escapeLabelChar, unescapeLabel?, ih]
    · simp [escapeLabelChar, unescapeLabel?_plain quote escape, ih]

private theorem unescapeHelp?_plain {c : Char} (notEscape : c ≠ '\\') (text : List Char) :
    unescapeHelp? (c :: text) = (unescapeHelp? text).map (c :: ·) := by
  rw [unescapeHelp?.eq_def]
  split <;> simp_all

private theorem unescapeHelp?_escape (help : List Char) :
    unescapeHelp? (help.flatMap escapeHelpChar) = some help := by
  induction help with
  | nil => rfl
  | cons c tail ih =>
    rw [List.flatMap_cons]
    by_cases escape : c = '\\'
    · subst escape
      simp [escapeHelpChar, unescapeHelp?, ih]
    by_cases newline : c = '\n'
    · subst newline
      simp [escapeHelpChar, unescapeHelp?, ih]
    · simp [escapeHelpChar, unescapeHelp?_plain escape, ih]

private theorem newline_not_mem_escapeLabel (value : List Char) :
    '\n' ∉ value.flatMap escapeLabelChar := by
  rw [List.mem_flatMap]
  rintro ⟨c, -, member⟩
  unfold escapeLabelChar at member
  split at member <;> grind

private theorem newline_not_mem_escapeHelp (help : List Char) :
    '\n' ∉ help.flatMap escapeHelpChar := by
  rw [List.mem_flatMap]
  rintro ⟨c, -, member⟩
  unfold escapeHelpChar at member
  split at member <;> grind

/-- A run of characters of one kind is cut off where another character stands. -/
theorem takeWhile_run {test : Char → Bool} {run : List Char} (inside : ∀ c ∈ run, test c = true)
    (stop : Char) (outside : test stop = false) (rest : List Char) :
    (run ++ stop :: rest).takeWhile test = run ∧
      (run ++ stop :: rest).dropWhile test = stop :: rest := by
  rw [List.takeWhile_append_of_pos inside, List.dropWhile_append_of_pos inside]
  simp [outside]

private theorem labelText_toList (label : String × String) :
    (labelText label).toList =
      label.1.toList ++ '=' :: '"' :: (label.2.toList.flatMap escapeLabelChar ++ ['"']) := by
  simp [labelText, escapeLabel]

private theorem readLabel?_labelText {label : String × String}
    (plain : ∀ c ∈ label.1.toList, isLabelChar c = true) (rest : List Char) :
    readLabel? ((labelText label).toList ++ rest) = some (label, rest) := by
  have shape : (labelText label).toList ++ rest =
      label.1.toList ++ '=' :: ('"' :: (label.2.toList.flatMap escapeLabelChar ++ '"' :: rest)) := by
    simp [labelText_toList]
  obtain ⟨taken, dropped⟩ := takeWhile_run plain '=' (by decide)
    ('"' :: (label.2.toList.flatMap escapeLabelChar ++ '"' :: rest))
  rw [readLabel?, shape, taken, dropped]
  simp [unescapeLabel?_escape]

/-- At least one label with commas between, and a brace at the end. -/
theorem readLabels?_intercalate {label : String × String} {more : List (String × String)}
    (plain : ∀ other ∈ label :: more, ∀ c ∈ other.1.toList, isLabelChar c = true) :
    readLabels? ((",".intercalate ((label :: more).map labelText)).toList ++ ['\x7d']) =
      some (label :: more) := by
  induction more generalizing label with
  | nil =>
    rw [readLabels?.eq_def, List.map_cons, List.map_nil, String.intercalate_singleton,
      readLabel?_labelText (plain label List.mem_cons_self)]
    rfl
  | cons next more ih =>
    have head : readLabel? ((",".intercalate ((label :: next :: more).map labelText)).toList ++
        ['\x7d']) =
          some (label, ',' :: ((",".intercalate ((next :: more).map labelText)).toList ++ ['\x7d'])) := by
      rw [← readLabel?_labelText (plain label List.mem_cons_self)]
      simp
    rw [readLabels?.eq_def, head]
    simp only
    rw [ih fun other member => plain other (List.mem_cons_of_mem _ member), Option.map_some]

theorem readSeries?_series {sample : Sample} (plain : sample.Plain) :
    readSeries? sample.series.toList = some (sample.metric, sample.labels) := by
  unfold Sample.series
  cases shape : sample.labels with
  | nil =>
    have whole : sample.metric.toList.dropWhile isNameChar = [] :=
      List.dropWhile_eq_nil_iff.mpr plain.metric
    have taken : sample.metric.toList.takeWhile isNameChar = sample.metric.toList :=
      List.takeWhile_eq_self_iff.mpr plain.metric
    simp [readSeries?, whole, taken]
  | cons label more =>
    have labels := plain.labels
    rw [shape] at labels
    obtain ⟨taken, dropped⟩ := takeWhile_run plain.metric '\x7b' (by decide)
      ((",".intercalate ((label :: more).map labelText)).toList ++ ['\x7d'])
    have text : (sample.metric ++ "\x7b" ++ ",".intercalate ((label :: more).map labelText) ++
        "\x7d").toList = sample.metric.toList ++ '\x7b' ::
          ((",".intercalate ((label :: more).map labelText)).toList ++ ['\x7d']) := by
      simp [-List.map_cons]
    rw [List.isEmpty_cons, if_neg (by decide), text, readSeries?, taken, dropped]
    simp only [readLabels?_intercalate labels, Option.map_some, String.ofList_toList]

private theorem not_mem_value {sample : Sample} (plain : sample.Plain) {c : Char}
    (foreign : isNumberChar c = false) : c ∉ sample.value.toList := by
  intro member
  rw [plain.valueChars c member] at foreign
  cases foreign

/-- The line of a sample without the newline at its end. -/
def sampleText (sample : Sample) : List Char := sample.series.toList ++ ' ' :: sample.value.toList

private theorem readSample?_sampleText {sample : Sample} (plain : sample.Plain) :
    readSample? (sampleText sample) = some sample.asRead := by
  have nonempty : sample.value.toList.isEmpty = false := by
    rw [List.isEmpty_eq_false_iff]
    exact fun empty => plain.value (String.toList_injective empty)
  rw [readSample?, sampleText, Text.splitLast?_append (not_mem_value plain (by decide))]
  simp [nonempty, readSeries?_series plain, Sample.asRead]

private theorem readLine?_of_head {text : List Char} (head : text.head? ≠ some '#') :
    readLine? text = (readSample? text).map .sample := by
  unfold readLine?
  split
  · exact absurd rfl head
  · exact absurd rfl head
  · rfl

/-- Neither a metric nor a brace nor the space before a value is a number sign. -/
private theorem sampleText_head {sample : Sample} (plain : sample.Plain) :
    (sampleText sample).head? ≠ some '#' := by
  have metric := plain.metric
  cases shape : sample.metric.toList with
  | nil =>
    have empty : sample.metric = "" := String.toList_injective shape
    by_cases unlabelled : sample.labels.isEmpty <;>
      simp [sampleText, Sample.series, unlabelled, empty]
  | cons c rest =>
    rw [shape] at metric
    have named := metric c List.mem_cons_self
    have apart : c ≠ '#' := by
      rintro rfl
      exact absurd named (by decide)
    by_cases unlabelled : sample.labels.isEmpty <;>
      simp [sampleText, Sample.series, unlabelled, shape, apart]

private theorem readLine?_sampleText {sample : Sample} (plain : sample.Plain) :
    readLine? (sampleText sample) = some (.sample sample.asRead) := by
  rw [readLine?_of_head (sampleText_head plain), readSample?_sampleText plain, Option.map_some]

private theorem readLine?_help {name : String} (plain : ∀ c ∈ name.toList, isNameChar c = true)
    (help : String) :
    readLine? ("# HELP " ++ name ++ " " ++ escapeHelp help).toList = some (.help name help) := by
  have free : ' ' ∉ name.toList := by
    intro member
    exact absurd (plain ' ' member) (by decide)
  have text : ("# HELP " ++ name ++ " " ++ escapeHelp help).toList =
      '#' :: ' ' :: 'H' :: 'E' :: 'L' :: 'P' :: ' ' ::
        (name.toList ++ ' ' :: help.toList.flatMap escapeHelpChar) := by
    simp [escapeHelp]
  rw [text, readLine?, Text.splitOnce?_append free]
  simp [unescapeHelp?_escape]

private theorem readType?_text (type : FamilyType) : readType? type.text.toList = some type := by
  cases type <;> decide

private theorem readLine?_type {name : String} (plain : ∀ c ∈ name.toList, isNameChar c = true)
    (type : FamilyType) :
    readLine? ("# TYPE " ++ name ++ " " ++ type.text).toList = some (.type name type) := by
  have free : ' ' ∉ name.toList := by
    intro member
    exact absurd (plain ' ' member) (by decide)
  have text : ("# TYPE " ++ name ++ " " ++ type.text).toList =
      '#' :: ' ' :: 'T' :: 'Y' :: 'P' :: 'E' :: ' ' :: (name.toList ++ ' ' :: type.text.toList) := by
    simp
  rw [text, readLine?, Text.splitOnce?_append free]
  simp [readType?_text]

/-! ## Whole pages -/

/-- The lines of a family, each with what a reader should make of it. -/
def written (descriptions : Bool) (name : String) (family : Family) : List (List Char × Line) :=
  (if descriptions then
    [(("# HELP " ++ name ++ " " ++ escapeHelp family.help).toList, .help name family.help)]
  else []) ++
    (("# TYPE " ++ name ++ " " ++ family.type.text).toList, .type name family.type) ::
      family.samples.map fun sample => (sampleText sample, .sample sample.asRead)

/-- Families whose names and samples are plain. -/
def PlainFamilies (families : Families) : Prop :=
  ∀ entry ∈ families.entries, (∀ c ∈ entry.1.toList, isNameChar c = true) ∧
    ∀ sample ∈ entry.2.samples, sample.Plain

private theorem text_toList (families : Families) (descriptions : Bool) :
    (families.text descriptions).toList =
      ((families.entries.flatMap fun entry => written descriptions entry.1 entry.2).map
        (·.1)).flatMap (· ++ ['\n']) := by
  have samples (samples : List Sample) : (String.join (samples.map Sample.line)).toList =
      (samples.map sampleText).flatMap (· ++ ['\n']) := by
    simp [List.flatMap_map, Sample.line, sampleText]
  have family (name : String) (family : Family) :
      (Families.header descriptions name family ++
        String.join (family.samples.map Sample.line)).toList =
      ((written descriptions name family).map (·.1)).flatMap (· ++ ['\n']) := by
    rw [String.toList_append, samples]
    cases descriptions <;> simp [Families.header, written, Function.comp_def]
  simp only [Families.text, String.toList_join, List.flatMap_map, family, List.map_flatMap,
    List.flatMap_assoc]

private theorem newline_not_mem_of_plain {name : List Char}
    (plain : ∀ c ∈ name, isNameChar c = true) : '\n' ∉ name := by
  intro member
  exact absurd (plain '\n' member) (by decide)

private theorem newline_not_mem_labelText {label : String × String}
    (plain : ∀ c ∈ label.1.toList, isLabelChar c = true) : '\n' ∉ (labelText label).toList := by
  have name : '\n' ∉ label.1.toList := by
    intro member
    exact absurd (plain '\n' member) (by decide)
  simp [labelText_toList, name, newline_not_mem_escapeLabel, -List.mem_flatMap]

private theorem newline_not_mem_intercalate {texts : List String}
    (free : ∀ text ∈ texts, '\n' ∉ text.toList) : '\n' ∉ (",".intercalate texts).toList := by
  induction texts with
  | nil => simp
  | cons first rest ih =>
    have head := free first List.mem_cons_self
    have tail := ih fun text member => free text (List.mem_cons_of_mem _ member)
    cases rest with
    | nil => simpa using head
    | cons second rest =>
      rw [String.intercalate_cons_cons]
      simp only [String.toList_append, List.mem_append, not_or]
      exact ⟨⟨head, by decide⟩, tail⟩

private theorem newline_not_mem_sampleText {sample : Sample} (plain : sample.Plain) :
    '\n' ∉ sampleText sample := by
  have metric := newline_not_mem_of_plain plain.metric
  have value := not_mem_value plain (c := '\n') (by decide)
  have labels : '\n' ∉ (",".intercalate (sample.labels.map labelText)).toList := by
    refine newline_not_mem_intercalate fun text member => ?_
    obtain ⟨label, own, rfl⟩ := List.mem_map.mp member
    exact newline_not_mem_labelText (plain.labels label own)
  have series : '\n' ∉ sample.series.toList := by
    unfold Sample.series
    split
    · exact metric
    · simp only [String.toList_append, List.mem_append, not_or]
      exact ⟨⟨⟨metric, by decide⟩, labels⟩, by decide⟩
  simp [sampleText, series, value]

/-- Each line of a plain family is one line, and a reader makes of it what it should. -/
private theorem written_readable {name : String} {family : Family} (descriptions : Bool)
    (plainName : ∀ c ∈ name.toList, isNameChar c = true)
    (plainSamples : ∀ sample ∈ family.samples, sample.Plain) :
    ∀ line ∈ written descriptions name family, '\n' ∉ line.1 ∧ readLine? line.1 = some line.2 := by
  have freeName := newline_not_mem_of_plain plainName
  intro line member
  rcases List.mem_append.mp member with help | rest
  · cases descriptions with
    | false => cases help
    | true =>
      cases List.mem_singleton.mp help
      refine ⟨?_, readLine?_help plainName family.help⟩
      simp [freeName, escapeHelp, newline_not_mem_escapeHelp, -List.mem_flatMap]
  · rcases List.mem_cons.mp rest with rfl | samples
    · refine ⟨?_, readLine?_type plainName family.type⟩
      cases family.type <;> simp [freeName, FamilyType.text]
    · obtain ⟨sample, own, rfl⟩ := List.mem_map.mp samples
      have plain := plainSamples sample own
      exact ⟨newline_not_mem_sampleText plain, readLine?_sampleText plain⟩

private theorem mapM_readLine? {lines : List (List Char × Line)}
    (readable : ∀ line ∈ lines, readLine? line.1 = some line.2) :
    (lines.map (·.1)).mapM readLine? = some (lines.map (·.2)) := by
  induction lines with
  | nil => rfl
  | cons line rest ih =>
    have tail := ih fun other member => readable other (List.mem_cons_of_mem _ member)
    simp [readable line List.mem_cons_self, tail]

private theorem collect?_samples (samples : List SampleLine) {rest : List Line} {blocks : List Block}
    (collected : collect? rest = some ([], blocks)) :
    collect? (samples.map .sample ++ rest) = some (samples, blocks) := by
  induction samples with
  | nil => exact collected
  | cons sample more ih =>
    rw [List.map_cons, List.cons_append, collect?, ih, Option.map_some]

/-- The lines of a family, in front of the lines of others, become one more block. -/
theorem collect?_written (descriptions : Bool) (name : String) (family : Family)
    {rest : List Line} {blocks : List Block} (collected : collect? rest = some ([], blocks)) :
    collect? ((written descriptions name family).map (·.2) ++ rest) =
      some ([], family.asRead descriptions name :: blocks) := by
  have samples : collect? (family.samples.map (fun sample => Line.sample sample.asRead) ++ rest) =
      some (family.samples.map Sample.asRead, blocks) := by
    simpa [Function.comp_def] using collect?_samples (family.samples.map Sample.asRead) collected
  cases descriptions <;>
    simp [written, collect?, Family.asRead, Function.comp_def, samples]

private theorem collect?_families (descriptions : Bool) (entries : List (String × Family)) :
    collect? ((entries.flatMap fun entry => written descriptions entry.1 entry.2).map (·.2)) =
      some ([], entries.map fun entry => entry.2.asRead descriptions entry.1) := by
  induction entries with
  | nil => rfl
  | cons entry rest ih =>
    rw [List.flatMap_cons, List.map_append]
    exact collect?_written descriptions entry.1 entry.2 ih

/-- The text of plain families reads back as exactly these families. -/
theorem read?_text {families : Families} (plain : PlainFamilies families) (descriptions : Bool) :
    read? (families.text descriptions) =
      some (families.entries.map fun entry => entry.2.asRead descriptions entry.1) := by
  have readable : ∀ line ∈ families.entries.flatMap fun entry =>
      written descriptions entry.1 entry.2, '\n' ∉ line.1 ∧ readLine? line.1 = some line.2 := by
    intro line member
    obtain ⟨entry, own, lineOf⟩ := List.mem_flatMap.mp member
    obtain ⟨name, samples⟩ := plain entry own
    exact written_readable descriptions name samples line lineOf
  have lines : Text.lines? (families.text descriptions).toList =
      some ((families.entries.flatMap fun entry =>
        written descriptions entry.1 entry.2).map (·.1)) := by
    rw [text_toList]
    refine Text.lines?_flatMap fun raw member => ?_
    obtain ⟨line, own, rfl⟩ := List.mem_map.mp member
    exact (readable line own).1
  rw [read?, lines, Option.bind_eq_bind, Option.bind_some,
    mapM_readLine? fun line own => (readable line own).2, Option.bind_eq_bind, Option.bind_some,
    collect?_families]
  rfl

end Reader
end Telemetry.Exposition
