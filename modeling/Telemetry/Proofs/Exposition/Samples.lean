import Telemetry.Proofs.Decimal.Positional
import Telemetry.Proofs.Exposition.Families
import Telemetry.Proofs.Exposition.ReadBack

/-! The samples of a meter, whatever its name and tags hold: their names are made of the characters
the format allows, and their values of the characters of numbers. -/
namespace Telemetry.Exposition
namespace Reader

/-- The metric names of the format, `[a-zA-Z_:][a-zA-Z0-9_:]*`. -/
def isMetricName (name : String) : Bool :=
  match name.toList with
  | [] => false
  | first :: rest => (first.isAlpha || first = '_' || first = ':') && rest.all isNameChar

/-- The label names of the format, `[a-zA-Z_][a-zA-Z0-9_]*`. -/
def isLabelName (name : String) : Bool :=
  match name.toList with
  | [] => false
  | first :: rest => (first.isAlpha || first = '_') && rest.all isLabelChar

end Reader
open Reader

/-! ## Names -/

theorem metricName_toList (text : String) :
    (metricName text).toList =
      (if (text.toList.map fun c => if isNameChar c then c else '_').head?.any Char.isDigit then ['_']
        else []) ++ text.toList.map fun c => if isNameChar c then c else '_' := by
  rw [metricName, String.toList_ofList]
  split <;> rfl

private theorem isNameChar_sanitized (c : Char) :
    isNameChar (if isNameChar c then c else '_') = true := by
  split
  · assumption
  · decide

/-- A metric name has no foreign characters. -/
theorem isNameChar_of_mem_metricName (member : c ∈ (metricName text).toList) :
    isNameChar c = true := by
  rw [metricName_toList, List.mem_append] at member
  rcases member with front | own
  · split at front
    · rw [List.mem_singleton.mp front]
      decide
    · cases front
  · obtain ⟨original, -, rfl⟩ := List.mem_map.mp own
    exact isNameChar_sanitized original

private theorem metricName_ne_empty (nonempty : text ≠ "") : metricName text ≠ "" := by
  intro empty
  have chars := congrArg String.toList empty
  rw [metricName_toList, String.toList_empty, List.append_eq_nil_iff, List.map_eq_nil_iff] at chars
  exact nonempty (String.toList_injective chars.2)

/-- A metric name does not begin with a digit. -/
theorem not_isDigit_of_head?_metricName (head : (metricName text).toList.head? = some c) :
    c.isDigit = false := by
  rw [metricName_toList] at head
  split at head
  · cases head
    decide
  · rename_i noDigit
    rw [List.nil_append] at head
    rw [head] at noDigit
    simpa using noDigit

private theorem isAlpha_of_isNameChar (name : isNameChar c = true) (digit : c.isDigit = false) :
    (c.isAlpha || c = '_' || c = ':') = true := by
  simpa [isNameChar, Char.isAlphanum, digit] using name

/-- **A name that is not empty becomes a metric name of the format.** -/
theorem isMetricName_metricName (nonempty : text ≠ "") : isMetricName (metricName text) = true := by
  have inside (c : Char) (member : c ∈ (metricName text).toList) := isNameChar_of_mem_metricName member
  have head (c : Char) (first : (metricName text).toList.head? = some c) :=
    not_isDigit_of_head?_metricName first
  unfold isMetricName
  cases shape : (metricName text).toList with
  | nil => exact absurd (String.toList_injective shape) (metricName_ne_empty nonempty)
  | cons first rest =>
    rw [shape] at inside head
    simp only [Bool.and_eq_true, List.all_eq_true]
    exact ⟨isAlpha_of_isNameChar (inside first List.mem_cons_self) (head first rfl),
      fun c member => inside c (List.mem_cons_of_mem _ member)⟩

private theorem isMetricName_append {name suffix : String} (valid : isMetricName name = true)
    (inside : suffix.toList.all isNameChar = true) : isMetricName (name ++ suffix) = true := by
  unfold isMetricName at valid ⊢
  rw [String.toList_append]
  cases shape : name.toList with
  | nil =>
    rw [shape] at valid
    cases valid
  | cons first rest =>
    rw [shape] at valid
    simp only [Bool.and_eq_true] at valid
    simp only [List.cons_append, List.all_append, Bool.and_eq_true]
    exact ⟨valid.1, valid.2, inside⟩

theorem labelName_toList (key : String) :
    (labelName key).toList = (metricName key).toList.map fun c => if c = ':' then '_' else c := by
  rw [labelName, String.toList_ofList]

private theorem isLabelChar_of_mem_labelName (member : c ∈ (labelName key).toList) :
    isLabelChar c = true := by
  rw [labelName_toList] at member
  obtain ⟨original, own, rfl⟩ := List.mem_map.mp member
  have name := isNameChar_of_mem_metricName own
  split
  · decide
  · rename_i noColon
    simpa [isNameChar, isLabelChar, noColon] using name

/-- **A key that is not empty becomes a label name of the format.** -/
theorem isLabelName_labelName (nonempty : key ≠ "") : isLabelName (labelName key) = true := by
  have inside (c : Char) (member : c ∈ (labelName key).toList) := isLabelChar_of_mem_labelName member
  have head (c : Char) (first : (metricName key).toList.head? = some c) :=
    not_isDigit_of_head?_metricName first
  have name (c : Char) (member : c ∈ (metricName key).toList) := isNameChar_of_mem_metricName member
  unfold isLabelName
  rw [labelName_toList] at inside ⊢
  cases shape : (metricName key).toList with
  | nil => exact absurd (String.toList_injective shape) (metricName_ne_empty nonempty)
  | cons first rest =>
    rw [shape] at inside head name
    have alpha := isAlpha_of_isNameChar (name first List.mem_cons_self) (head first rfl)
    rw [List.map_cons] at inside ⊢
    simp only [Bool.and_eq_true, List.all_eq_true]
    refine ⟨?_, fun c member => inside c (List.mem_cons_of_mem _ member)⟩
    split
    · decide
    · rename_i noColon
      simpa [noColon] using alpha

/-! ## Values -/

private theorem isNumberChar_of_isDigit {c : Char} (digit : c.isDigit = true) :
    isNumberChar c = true := by
  simp [isNumberChar, Char.isAlphanum, digit]

private theorem isNumberChar_of_mem_toString {n : Nat} (member : c ∈ (toString n).toList) :
    isNumberChar c = true := by
  rw [Nat.toString_eq_repr, Nat.toList_repr] at member
  exact isNumberChar_of_isDigit (Nat.isDigit_of_mem_toDigits (by decide) (by decide) member)

private theorem toString_ne_empty (n : Nat) : toString n ≠ "" := by
  intro empty
  have chars := congrArg String.toList empty
  rw [Nat.toString_eq_repr, Nat.toList_repr] at chars
  exact Nat.toDigits_ne_nil chars

/-- The text of a number has no space and no end of a line. -/
private theorem isNumberChar_of_mem_valueText (member : c ∈ (valueText value).toList) :
    isNumberChar c = true :=
  Decimal.forall_mem_write Decimal.signedInfinity_positional
    (fun _ digit => isNumberChar_of_isDigit digit) (by decide) (by decide) (by decide) member

private theorem valueText_ne_empty (value : Binary64) : valueText value ≠ "" := by
  cases value with
  | nan => decide
  | infinity negative => cases negative <;> decide
  | finite negative quanta double =>
    exact Decimal.write_finite_ne_empty Decimal.signedInfinity_positional negative double

theorem valueText_injective (same : valueText a = valueText b) : a = b :=
  Decimal.write_injective Decimal.signedInfinity_positional same

/-! ## Samples -/

/-- The labels of a sample: a tag's key becomes a label name and its value stays as it is, and a
quantile has one label more. -/
def LabelsOf (tags : Tags) (names : List (String × String)) : Prop :=
  names = labels tags ∨ ∃ quantile, names = labels tags ++ [("quantile", valueText quantile)]

/-- The texts of values: those of numbers, and those of counts. -/
inductive IsValueText : String → Prop where
  | number (value : Binary64) : IsValueText (valueText value)
  | count (n : Nat) : IsValueText (toString n)

private theorem IsValueText.ne_empty {text : String} (value : IsValueText text) : text ≠ "" := by
  cases value with
  | number value => exact valueText_ne_empty value
  | count n => exact toString_ne_empty n

private theorem IsValueText.isNumberChar_of_mem {text : String} (value : IsValueText text)
    (member : c ∈ text.toList) : isNumberChar c = true := by
  cases value with
  | number value => exact isNumberChar_of_mem_valueText member
  | count n => exact isNumberChar_of_mem_toString member

/-- What every sample of a meter is: where its names come from, and what it may hold besides. -/
structure SampleOf (reading : Reading) (sample : Sample) : Prop where
  family : ∃ suffix, sample.family = metricName reading.id.name ++ suffix ∧
    suffix.toList.all isNameChar = true
  metric : sample.metric = sample.family ∨
    sample.type = .summary ∧ ClashesWith sample.family sample.metric
  labels : LabelsOf reading.id.tags sample.labels
  value : IsValueText sample.value

theorem sampleOf_of_mem {reading : Reading} {sample : Sample} (member : sample ∈ samples reading) :
    SampleOf reading sample := by
  have own : metricName reading.id.name = metricName reading.id.name ++ "" := String.append_empty.symm
  unfold samples at member
  cases shape : reading.value with
  | counter count =>
    rw [shape] at member
    cases List.mem_singleton.mp member
    exact ⟨⟨"", own, by decide⟩, .inl rfl, .inl rfl, .count count⟩
  | gauge value =>
    rw [shape] at member
    cases List.mem_singleton.mp member
    exact ⟨⟨"", own, by decide⟩, .inl rfl, .inl rfl, .number value⟩
  | longTaskTimer active duration =>
    rw [shape] at member
    simp only [List.mem_cons, List.not_mem_nil, or_false] at member
    rcases member with rfl | rfl
    · exact ⟨⟨"_active_count", rfl, by decide⟩, .inl rfl, .inl rfl, .count active⟩
    · refine ⟨⟨"_duration_sum", rfl, by decide⟩, .inl rfl, .inl rfl, ?_⟩
      dsimp only
      exact .number _
  | timer count total max quantiles =>
    rw [shape] at member
    simp only [List.mem_append, List.mem_map, List.mem_cons, List.not_mem_nil, or_false] at member
    rcases member with ⟨⟨q, value⟩, -, rfl⟩ | rfl | rfl | rfl
    · refine ⟨⟨"", own, by decide⟩, .inl rfl, .inr ⟨q, rfl⟩, ?_⟩
      dsimp only
      exact .number _
    · refine ⟨⟨"", own, by decide⟩, .inr ⟨rfl, .inl rfl⟩, .inl rfl, ?_⟩
      dsimp only
      exact .number _
    · exact ⟨⟨"", own, by decide⟩, .inr ⟨rfl, .inr rfl⟩, .inl rfl, .count count⟩
    · refine ⟨⟨"_max", rfl, by decide⟩, .inl rfl, .inl rfl, ?_⟩
      dsimp only
      exact .number _

variable {reading : Reading} {sample : Sample}

theorem SampleOf.family_chars (of : SampleOf reading sample) :
    ∀ c ∈ sample.family.toList, isNameChar c = true := by
  obtain ⟨suffix, shape, inside⟩ := of.family
  intro c member
  rw [shape, String.toList_append, List.mem_append] at member
  rcases member with own | own
  · exact isNameChar_of_mem_metricName own
  · exact List.all_eq_true.mp inside c own

/-- A metric is its family's name with nothing, `_sum` or `_count` behind it. -/
theorem SampleOf.metric_eq (of : SampleOf reading sample) :
    ∃ suffix, sample.metric = sample.family ++ suffix ∧ suffix.toList.all isNameChar = true := by
  rcases of.metric with same | ⟨-, sum | count⟩
  · exact ⟨"", same.trans String.append_empty.symm, by decide⟩
  · exact ⟨"_sum", sum, by decide⟩
  · exact ⟨"_count", count, by decide⟩

private theorem LabelsOf.names {tags : Tags} {names : List (String × String)}
    (of : LabelsOf tags names) :
    ∀ label ∈ names, label.1 = "quantile" ∨ ∃ tag ∈ tags.entries, label.1 = labelName tag.1 := by
  have own : ∀ label ∈ labels tags, ∃ tag ∈ tags.entries, label.1 = labelName tag.1 := by
    intro label member
    obtain ⟨tag, inside, rfl⟩ := List.mem_map.mp member
    exact ⟨tag, inside, rfl⟩
  intro label member
  rcases of with rfl | ⟨quantile, rfl⟩
  · exact .inr (own label member)
  · rcases List.mem_append.mp member with tag | last
    · exact .inr (own label tag)
    · rw [List.mem_singleton.mp last]
      exact .inl rfl

/-- Every sample of a meter is plain. -/
theorem SampleOf.plain (of : SampleOf reading sample) : sample.Plain where
  metric := by
    obtain ⟨suffix, shape, inside⟩ := of.metric_eq
    intro c member
    rw [shape, String.toList_append, List.mem_append] at member
    rcases member with own | own
    · exact of.family_chars c own
    · exact List.all_eq_true.mp inside c own
  labels := by
    intro label member c inside
    rcases of.labels.names label member with quantile | ⟨tag, -, name⟩
    · rw [quantile] at inside
      have word : ("quantile" : String).toList.all isLabelChar = true := by decide
      exact List.all_eq_true.mp word c inside
    · rw [name] at inside
      exact isLabelChar_of_mem_labelName inside
  value := of.value.ne_empty
  valueChars := fun _ member => of.value.isNumberChar_of_mem member

theorem SampleOf.isMetricName_family (of : SampleOf reading sample) (nonempty : reading.id.name ≠ "") :
    isMetricName sample.family = true := by
  obtain ⟨suffix, shape, inside⟩ := of.family
  rw [shape]
  exact isMetricName_append (isMetricName_metricName nonempty) inside

theorem SampleOf.isMetricName_metric (of : SampleOf reading sample) (nonempty : reading.id.name ≠ "") :
    isMetricName sample.metric = true := by
  obtain ⟨suffix, shape, inside⟩ := of.metric_eq
  rw [shape]
  exact isMetricName_append (of.isMetricName_family nonempty) inside

end Telemetry.Exposition
