import Mathlib.Data.List.Nodup
import Telemetry.Proofs.Exposition.Uniqueness

/-! One text for one set of labels. Two series are held to be the same if they read the same, and labels
are written in the order of the raw keys. Making a key a label name can change its place among the
others, and can make two keys one; where it does neither, the text tells the set of labels. -/
namespace Telemetry.Exposition
open Reader
variable {tags others : Tags} {reading other : Reading} {a b : Sample} {key value : String}

/-- The label names of a tag set ascend as its keys do. -/
def InOrder (tags : Tags) : Prop := (labels tags).Pairwise fun a b => a.1 < b.1

/-- No key of a tag set becomes the label of a quantile. -/
def Unreserved (tags : Tags) : Prop := ∀ key ∈ tags.keys, labelName key ≠ "quantile"

private theorem map_fst_labels (tags : Tags) : (labels tags).map (·.1) = tags.keys.map labelName := by
  simp [labels, OrderedMap.keys]

private theorem keys_nodup (tags : Tags) : tags.keys.Nodup := by
  refine tags.keys_ascending.imp ?_
  rintro key _ below rfl
  exact String.lt_irrefl key (compare_lt_iff.mp below)

/-- The labels of a tag set have different names exactly if no two of its keys become one label name. -/
theorem nodup_labels_iff (tags : Tags) : ((labels tags).map (·.1)).Nodup ↔
    ∀ key ∈ tags.keys, ∀ twin ∈ tags.keys, labelName key = labelName twin → key = twin := by
  rw [map_fst_labels]
  exact List.nodup_map_iff_inj_on (keys_nodup tags)

theorem unreserved_iff : Unreserved tags ↔ "quantile" ∉ (labels tags).map (·.1) := by
  rw [map_fst_labels]
  simp [Unreserved]

/-- A quantile label goes with them exactly if no key has taken its name. -/
private theorem nodup_append_quantile_iff (tags : Tags) (value : String) :
    ((labels tags ++ [("quantile", value)]).map (·.1)).Nodup ↔
      ((labels tags).map (·.1)).Nodup ∧ Unreserved tags := by
  rw [List.map_append, List.map_singleton, ← List.concat_eq_append, List.nodup_concat,
    ← unreserved_iff, and_comm]

/-- In order, the same set of labels is the same list. -/
theorem labels_eq_of_same (first : InOrder tags) (second : InOrder others)
    (same : ∀ label, label ∈ labels tags ↔ label ∈ labels others) : labels tags = labels others :=
  OrderedMap.eq_of_ascending (first.imp compare_lt_iff.mpr) (second.imp compare_lt_iff.mpr) same

/-- What a quantile line adds to the labels of its tag set tells itself from them. -/
theorem mem_labels_iff_of_unreserved (unreserved : Unreserved tags) (label : String × String) :
    label ∈ labels tags ↔ label ∈ labels tags ++ [("quantile", value)] ∧ label.1 ≠ "quantile" := by
  rw [List.mem_append, List.mem_singleton]
  constructor
  · intro own
    refine ⟨.inl own, fun reserved => ?_⟩
    exact unreserved_iff.mp unreserved (reserved ▸ List.mem_map_of_mem own)
  · rintro ⟨own | rfl, apart⟩
    · exact own
    · exact absurd rfl apart

/-- Lines of two meters have the same labels in the same order if they have the same set of labels. -/
theorem labels_eq_of_samples (own : LabelsOf tags a.labels) (alien : LabelsOf others b.labels)
    (first : InOrder tags) (second : InOrder others)
    (kinds : a.labels = labels tags ∧ b.labels = labels others ∨ Unreserved tags ∧ Unreserved others)
    (same : ∀ label, label ∈ a.labels ↔ label ∈ b.labels) : a.labels = b.labels := by
  rcases kinds with ⟨plain, plainToo⟩ | ⟨free, freeToo⟩
  · rw [plain, plainToo] at same ⊢
    exact labels_eq_of_same first second same
  -- A set with the label of a quantile is that of a quantile line, and only one of its labels is that.
  · have noQuantile {tags : Tags} (free : Unreserved tags) (value : String) :
        ("quantile", value) ∉ labels tags :=
      fun member => unreserved_iff.mp free (List.mem_map_of_mem member)
    have quantile (labels : List (String × String)) (value : String) :
        ("quantile", value) ∈ labels ++ [("quantile", value)] :=
      List.mem_append_right _ List.mem_cons_self
    rcases own with plain | ⟨p, atP⟩ <;> rcases alien with plainToo | ⟨q, atQ⟩
    · rw [plain, plainToo] at same ⊢
      exact labels_eq_of_same first second same
    · rw [plain, atQ] at same
      exact absurd ((same _).mpr (quantile _ _)) (noQuantile free _)
    · rw [atP, plainToo] at same
      exact absurd ((same _).mp (quantile _ _)) (noQuantile freeToo _)
    · rw [atP, atQ] at same ⊢
      have sets : labels tags = labels others := by
        refine labels_eq_of_same first second fun label => ?_
        rw [mem_labels_iff_of_unreserved free, mem_labels_iff_of_unreserved freeToo, same]
      have value : ("quantile", valueText p) = ("quantile", valueText q) := by
        have member := (same _).mp (quantile (labels tags) (valueText p))
        rcases List.mem_append.mp member with tag | last
        · exact absurd tag (noQuantile freeToo _)
        · exact List.mem_singleton.mp last
      rw [sets, value]

/-- The series of a sample is told by its metric and its labels. -/
theorem series_eq_iff (own : a ∈ samples reading) (alien : b ∈ samples other) :
    a.series = b.series ↔ a.metric = b.metric ∧ a.labels = b.labels := by
  constructor
  · exact eq_of_series (sampleOf_of_mem own).plain (sampleOf_of_mem alien).plain
  · rintro ⟨metric, labels⟩
    rw [Sample.series, Sample.series, metric, labels]

/-! ## Keys that are label names already -/

private theorem isDigit_of_isAlpha {c : Char} (alpha : c.isAlpha = true) : c.isDigit = false := by
  rw [Bool.eq_false_iff]
  intro digit
  have below : c.val ≤ 57 := of_decide_eq_true (Bool.and_eq_true_iff.mp digit).2
  rcases Bool.or_eq_true_iff.mp alpha with upper | lower
  · have above : 65 ≤ c.val := (of_decide_eq_true upper).1
    exact absurd (UInt32.le_trans above below) (by decide)
  · have above : 97 ≤ c.val := of_decide_eq_true (Bool.and_eq_true_iff.mp lower).1
    exact absurd (UInt32.le_trans above below) (by decide)

private theorem isNameChar_of_isLabelChar {c : Char} (label : isLabelChar c = true) :
    isNameChar c = true := by
  rw [isLabelChar] at label
  rw [isNameChar, label, Bool.true_or]

/-- A label name of the format has no foreign characters and no digit in front. -/
private theorem isLabelChar_of_isLabelName (valid : isLabelName key = true) :
    (∀ c ∈ key.toList, isLabelChar c = true) ∧ ∀ c ∈ key.toList.head?, c.isDigit = false := by
  unfold isLabelName at valid
  cases shape : key.toList with
  | nil => exact ⟨nofun, nofun⟩
  | cons first rest =>
    rw [shape] at valid
    simp only [Bool.and_eq_true, Bool.or_eq_true, decide_eq_true_eq, List.all_eq_true] at valid
    obtain ⟨head, tail⟩ := valid
    refine ⟨List.forall_mem_cons.mpr ⟨?_, tail⟩, ?_⟩
    · rcases head with alpha | rfl
      · simp [isLabelChar, Char.isAlphanum, alpha]
      · decide
    · rintro c ⟨⟩
      rcases head with alpha | rfl
      · exact isDigit_of_isAlpha alpha
      · decide

private theorem map_eq_self {α : Type} {f : α → α} {list : List α} (fixed : ∀ x ∈ list, f x = x) :
    list.map f = list :=
  (List.map_congr_left fixed).trans (List.map_id list)

/-- A label name of the format is left as it is. -/
private theorem labelName_eq_self (valid : isLabelName key = true) : labelName key = key := by
  obtain ⟨inside, head⟩ := isLabelChar_of_isLabelName valid
  have chars : (key.toList.map fun c => if isNameChar c then c else '_') = key.toList :=
    map_eq_self fun c member => if_pos (isNameChar_of_isLabelChar (inside c member))
  have noDigit : key.toList.head?.any Char.isDigit = false := by
    cases front : key.toList.head? with
    | none => rfl
    | some c => exact head c front
  have noColon : (key.toList.map fun c => if c = ':' then '_' else c) = key.toList := by
    refine map_eq_self fun c member => if_neg ?_
    rintro rfl
    exact absurd (inside _ member) (by decide)
  apply String.toList_injective
  rw [labelName_toList, metricName_toList, chars, noDigit]
  exact noColon

/-- Keys that are label names of the format stay apart and in order. -/
private theorem inOrder_of_labelNames (valid : ∀ key ∈ tags.keys, isLabelName key = true) :
    InOrder tags := by
  have fixed : (labels tags).map (·.1) = tags.keys := by
    rw [map_fst_labels]
    exact map_eq_self fun key member => labelName_eq_self (valid key member)
  refine List.pairwise_map.mp ?_
  rw [fixed]
  exact tags.keys_ascending.imp compare_lt_iff.mp

/-- **One text for one set of labels.** The label names on a line differ from one another exactly if no two
keys of the tag set become one label name and, on the line of a quantile, no key becomes the name of the
quantile's label. Where label names keep the order of the keys, a series reads like another one exactly
if they have the same metric and the same set of labels; if one of them is of a quantile, no key may
become the name of its label. Keys that are label names already keep their order. -/
theorem label_sets_are_canonical (own : a ∈ samples reading) (alien : b ∈ samples other) :
    ((a.labels.map (·.1)).Nodup ↔
      (∀ key ∈ reading.id.tags.keys, ∀ twin ∈ reading.id.tags.keys,
        labelName key = labelName twin → key = twin) ∧
      (a.labels ≠ labels reading.id.tags → Unreserved reading.id.tags)) ∧
    (InOrder reading.id.tags → InOrder other.id.tags →
      (a.labels = labels reading.id.tags ∧ b.labels = labels other.id.tags ∨
        Unreserved reading.id.tags ∧ Unreserved other.id.tags) →
      (a.series = b.series ↔ a.metric = b.metric ∧ ∀ label, label ∈ a.labels ↔ label ∈ b.labels)) ∧
    ((∀ key ∈ reading.id.tags.keys, isLabelName key = true) → InOrder reading.id.tags) := by
  have ownLabels := (sampleOf_of_mem own).labels
  refine ⟨?_, fun first second kinds => ?_, inOrder_of_labelNames⟩
  · rw [← nodup_labels_iff]
    rcases ownLabels with plain | ⟨q, quantile⟩
    · rw [plain]
      exact ⟨fun nodup => ⟨nodup, fun apart => absurd rfl apart⟩, And.left⟩
    · have apart : a.labels ≠ labels reading.id.tags := by
        rw [quantile]
        exact fun same => List.cons_ne_nil _ _ (List.append_right_eq_self.mp same)
      rw [quantile, nodup_append_quantile_iff]
      exact and_congr_right fun _ => ⟨fun free _ => free, fun free => free (quantile ▸ apart)⟩
  · rw [series_eq_iff own alien]
    refine and_congr_right fun _ => ⟨fun labels label => by rw [labels], ?_⟩
    exact labels_eq_of_samples ownLabels (sampleOf_of_mem alien).labels first second kinds

/-- Two timers of one name and one set of tags: their quantiles are on one series. -/
theorem quantile_lines_are_canonical :
    let tags : Tags := .ofList [("uri", "/a\"b"), ("http_method", "GET")]
    let others : Tags := .ofList [("http_method", "GET"), ("uri", "/a\"b")]
    let reading : Reading := ⟨⟨"lat", tags⟩, .timer 2 .zero .zero [(.one, .zero)]⟩
    let other : Reading := ⟨⟨"lat", others⟩, .timer 5 .zero .zero [(.one, ⟨7⟩)]⟩
    ∃ a ∈ samples reading, ∃ b ∈ samples other, InOrder tags ∧ InOrder others ∧
      Unreserved tags ∧ Unreserved others ∧ (∀ label, label ∈ a.labels ↔ label ∈ b.labels) ∧
      a.labels ≠ labels tags ∧ (a.labels.map (·.1)).Nodup ∧ a.series = b.series := by
  intro tags others reading other
  let a : Sample := ⟨"lat", .summary, "lat", labels tags ++ [("quantile", valueText .one)],
    valueText Duration.zero.seconds⟩
  let b : Sample := ⟨"lat", .summary, "lat", labels others ++ [("quantile", valueText .one)],
    valueText (Duration.mk 7).seconds⟩
  have own : a ∈ samples reading := by decide +kernel
  have alien : b ∈ samples other := by decide +kernel
  have same : labels tags = labels others := by decide +kernel
  have valid : ∀ key ∈ tags.keys, isLabelName key = true := by decide +kernel
  have apart : ∀ key ∈ tags.keys, ∀ twin ∈ tags.keys, labelName key = labelName twin → key = twin := by
    decide +kernel
  have free : Unreserved tags := by unfold Unreserved; decide +kernel
  have quantile : a.labels ≠ labels tags := by decide +kernel
  obtain ⟨names, canonical, ordered⟩ := label_sets_are_canonical own alien
  have inOrder : InOrder tags := ordered valid
  have sameSet : ∀ label, label ∈ a.labels ↔ label ∈ b.labels := by
    intro label
    simp only [a, b, same]
  have inOrderToo : InOrder others := by rwa [InOrder, ← same]
  have freeToo : Unreserved others := by rwa [unreserved_iff, ← same, ← unreserved_iff]
  refine ⟨a, own, b, alien, inOrder, inOrderToo, free, freeToo, sameSet, quantile,
    names.mpr ⟨apart, fun _ => free⟩, ?_⟩
  exact (canonical inOrder inOrderToo (.inr ⟨free, freeToo⟩)).mpr ⟨rfl, sameSet⟩

/-- One set of labels can be on a page under two texts, since `-` stands before the letters and `_` behind
the capital ones; and one label name can be on a line twice. -/
theorem one_label_set_under_two_texts :
    let first : Tags := .ofList [("userName", "ann"), ("user_id", "7")]
    let second : Tags := .ofList [("user-id", "7"), ("userName", "ann")]
    let both : Tags := .ofList [("user-id", "7"), ("user_id", "8")]
    let hits (tags : Tags) (count : Nat) : Reading := ⟨⟨"hits", tags⟩, .counter count⟩
    (∀ tags ∈ [first, second, both], ∀ key ∈ tags.keys, key ≠ "") ∧
    (∀ label, label ∈ labels first ↔ label ∈ labels second) ∧
    (∀ a ∈ samples (hits first 3), ∀ b ∈ samples (hits second 4), a.series ≠ b.series) ∧
    ¬ ((labels both).map (·.1)).Nodup ∧
    render [hits first 3, hits second 4, hits both 5] false = "# TYPE hits counter\n" ++
      "hits\x7buserName=\"ann\",user_id=\"7\"\x7d 3\n" ++
      "hits\x7buser_id=\"7\",userName=\"ann\"\x7d 4\n" ++
      "hits\x7buser_id=\"7\",user_id=\"8\"\x7d 5\n" := by
  intro first second both hits
  have firstLabels : labels first = [("userName", "ann"), ("user_id", "7")] := by decide +kernel
  have secondLabels : labels second = [("user_id", "7"), ("userName", "ann")] := by decide +kernel
  refine ⟨by decide +kernel, fun label => ?_, by decide +kernel, by decide +kernel, by decide +kernel⟩
  rw [firstLabels, secondLabels]
  simp only [List.mem_cons, List.not_mem_nil, or_false]
  exact or_comm

end Telemetry.Exposition
