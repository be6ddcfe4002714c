import Mathlib.Data.List.Pairwise
import Telemetry.Export.Exposition
import Telemetry.Proofs.OrderedMap

/-! Which meters a page shows, said without families: a meter is accepted if each of its samples can
stand beside every sample accepted before it. The families are then the accepted samples sorted by
name, each with the type and the help text of its first one. -/
namespace Telemetry.Exposition

/-- Samples that can stand on one page: within a family they have one type and different series. -/
def Together (a b : Sample) : Prop := a.family = b.family → a.type = b.type ∧ a.series ≠ b.series

instance (a b : Sample) : Decidable (Together a b) := inferInstanceAs (Decidable (_ → _))

/-- One more meter, if all its samples can stand beside those of the meters accepted so far. -/
def accept (shown : Snapshot) (reading : Reading) : Snapshot :=
  if ∀ sample ∈ samples reading, ∀ other ∈ shown.flatMap samples, Together other sample then
    shown ++ [reading]
  else shown

/-- The accepted meters of a snapshot, in their order. -/
def accepted (snapshot : Snapshot) : Snapshot := snapshot.foldl accept []

/-- The samples of some meters, each with the name of its meter. -/
def exposures (shown : Snapshot) : List (String × Sample) :=
  shown.flatMap fun reading => (samples reading).map fun sample => (reading.id.name, sample)

/-- The family of some samples: the first one decides on type and help text. -/
def gathered : List (String × Sample) → Option Family
  | [] => none
  | (help, first) :: rest => some ⟨first.type, help, first :: rest.map (·.2)⟩

/-- Families that hold exactly these samples. -/
def Gathers (families : Families) (exposed : List (String × Sample)) : Prop :=
  ∀ name, families.get? name = gathered (exposed.filter fun pair => pair.2.family = name)

theorem exposures_append (shown more : Snapshot) :
    exposures (shown ++ more) = exposures shown ++ exposures more :=
  List.flatMap_append

private theorem map_exposures (shown : Snapshot) :
    (exposures shown).map (·.2) = shown.flatMap samples := by
  simp [exposures, List.map_flatMap, Function.comp_def]

/-! ## Acceptance -/

private theorem accept_subset (shown : Snapshot) (reading : Reading) :
    ∀ other ∈ accept shown reading, other ∈ shown ∨ other = reading := by
  intro other member
  unfold accept at member
  split at member
  · simpa using member
  · exact .inl member

private theorem foldl_accept_subset (snapshot shown : Snapshot) :
    ∀ other ∈ snapshot.foldl accept shown, other ∈ shown ∨ other ∈ snapshot := by
  induction snapshot generalizing shown with
  | nil => exact fun other member => .inl member
  | cons reading rest ih =>
    intro other member
    rcases ih (accept shown reading) other member with early | late
    · rcases accept_subset shown reading other early with old | rfl
      · exact .inl old
      · exact .inr List.mem_cons_self
    · exact .inr (List.mem_cons_of_mem _ late)

/-- Only meters of the snapshot are accepted. -/
theorem mem_of_mem_accepted {snapshot : Snapshot} (member : reading ∈ accepted snapshot) :
    reading ∈ snapshot := by
  rcases foldl_accept_subset snapshot [] reading member with none | inside
  · cases none
  · exact inside

section Pairwise
variable {R : Sample → Sample → Prop}

private theorem pairwise_accept (weaker : ∀ a b, Together a b → R a b) {shown : Snapshot}
    {reading : Reading}
    (within : (samples reading).Pairwise R) (before : (shown.flatMap samples).Pairwise R) :
    ((accept shown reading).flatMap samples).Pairwise R := by
  unfold accept
  split
  · rename_i fits
    rw [List.flatMap_append, List.pairwise_append]
    refine ⟨before, by simpa using within, fun other old sample own => ?_⟩
    exact weaker other sample (fits sample (by simpa using own) other old)
  · exact before

private theorem pairwise_foldl_accept (weaker : ∀ a b, Together a b → R a b)
    {snapshot shown : Snapshot} (within : ∀ reading ∈ snapshot, (samples reading).Pairwise R)
    (before : (shown.flatMap samples).Pairwise R) :
    ((snapshot.foldl accept shown).flatMap samples).Pairwise R := by
  induction snapshot generalizing shown with
  | nil => exact before
  | cons reading rest ih =>
    exact ih (fun other member => within other (List.mem_cons_of_mem _ member))
      (pairwise_accept weaker (within reading List.mem_cons_self) before)

/-- What any two samples of one meter have, and any two that can stand together, all have. -/
theorem pairwise_accepted (weaker : ∀ a b, Together a b → R a b) {snapshot : Snapshot}
    (within : ∀ reading ∈ snapshot, (samples reading).Pairwise R) :
    ((accepted snapshot).flatMap samples).Pairwise R :=
  pairwise_foldl_accept weaker within .nil

end Pairwise

/-- Samples of one family that have one type. -/
def SameType (a b : Sample) : Prop := a.family = b.family → a.type = b.type

theorem append_ne_self {suffix : String} (nonempty : suffix ≠ "") (name : String) :
    name ++ suffix ≠ name := by
  intro same
  have lengths := congrArg String.length same
  rw [String.length_append] at lengths
  exact nonempty (String.length_eq_zero_iff.mp (by omega))

/-- A meter gives each of its families one type: a timer's own samples are a summary, and only its
largest value stands apart, under a longer name. -/
private theorem samples_sameType (reading : Reading) : (samples reading).Pairwise SameType := by
  have apart : metricName reading.id.name ≠ metricName reading.id.name ++ "_max" :=
    (append_ne_self (by decide) _).symm
  unfold samples
  cases reading.value with
  | counter count => exact List.pairwise_singleton _ _
  | gauge value => exact List.pairwise_singleton _ _
  | longTaskTimer active duration => simp [SameType]
  | timer count total max quantiles =>
    rw [List.pairwise_append]
    refine ⟨?_, ?_, ?_⟩
    · rw [List.pairwise_map]
      exact List.pairwise_of_forall fun _ _ _ => rfl
    · simp [SameType, apart]
    · intro a quantile b other
      obtain ⟨pair, -, rfl⟩ := List.mem_map.mp quantile
      simp only [List.mem_cons, List.not_mem_nil, or_false] at other
      rcases other with rfl | rfl | rfl
      · exact fun _ => rfl
      · exact fun _ => rfl
      · exact fun family => absurd family apart

/-- All accepted samples of a family have one type. -/
theorem type_eq_of_accepted {snapshot : Snapshot} {a b : Sample}
    (first : a ∈ (accepted snapshot).flatMap samples)
    (second : b ∈ (accepted snapshot).flatMap samples) (family : a.family = b.family) :
    a.type = b.type := by
  have pairwise : ((accepted snapshot).flatMap samples).Pairwise SameType :=
    pairwise_accepted (fun a b together family => (together family).1)
      fun reading _ => samples_sameType reading
  have symmetric : Std.Symm SameType := ⟨fun a b same family => (same family.symm).symm⟩
  exact pairwise.forall_of_forall (fun c _ _ => rfl) first second family

/-! ## Families as sorted samples -/

private theorem gathers_empty : Gathers .empty [] := fun _ => rfl

private theorem gathered_append_singleton (exposed : List (String × Sample)) (help : String)
    (sample : Sample) :
    gathered (exposed ++ [(help, sample)]) =
      some { (gathered exposed).getD ⟨sample.type, help, []⟩ with
        samples := ((gathered exposed).getD ⟨sample.type, help, []⟩).samples ++ [sample] } := by
  cases exposed with
  | nil => rfl
  | cons first rest => simp [gathered]

private theorem gathers_addSample {families : Families} {exposed : List (String × Sample)}
    (gathers : Gathers families exposed) (help : String) (sample : Sample) :
    Gathers (families.addSample help sample) (exposed ++ [(help, sample)]) := by
  intro name
  unfold Families.addSample
  rw [List.filter_append]
  by_cases own : name = sample.family
  · subst own
    have singleton : [(help, sample)].filter (fun pair => pair.2.family = sample.family) =
        [(help, sample)] := by simp
    rw [OrderedMap.get?_insert_self, singleton, gathered_append_singleton, gathers sample.family]
  · have nothing : [(help, sample)].filter (fun pair => pair.2.family = name) = [] := by
      simpa using fun same => own same.symm
    rw [OrderedMap.get?_insert_of_ne _ _ own, nothing, List.append_nil, gathers name]

private theorem gathers_foldl_addSample {families : Families} {exposed : List (String × Sample)}
    (gathers : Gathers families exposed) (help : String) (samples : List Sample) :
    Gathers (samples.foldl (Families.addSample help) families)
      (exposed ++ samples.map fun sample => (help, sample)) := by
  induction samples generalizing families exposed with
  | nil => simpa using gathers
  | cons sample rest ih =>
    have step := ih (gathers_addSample gathers help sample)
    simpa using step

/-- A family admits a sample exactly if all samples of the family can stand beside it. -/
theorem admits_iff {families : Families} {exposed : List (String × Sample)}
    (gathers : Gathers families exposed)
    (uniform : ∀ a ∈ exposed, ∀ b ∈ exposed, a.2.family = b.2.family → a.2.type = b.2.type)
    (sample : Sample) :
    families.admits sample = true ↔ ∀ other ∈ exposed.map (·.2), Together other sample := by
  have members (pair : String × Sample) :
      pair ∈ exposed.filter (fun pair => pair.2.family = sample.family) ↔
        pair ∈ exposed ∧ pair.2.family = sample.family := by
    simp
  unfold Families.admits
  rw [gathers sample.family]
  cases shape : exposed.filter (fun pair => pair.2.family = sample.family) with
  | nil =>
    simp only [gathered, true_iff]
    intro other member family
    obtain ⟨pair, own, rfl⟩ := List.mem_map.mp member
    have := (members pair).mpr ⟨own, family⟩
    rw [shape] at this
    cases this
  | cons first rest =>
    rw [shape] at members
    obtain ⟨firstExposed, firstFamily⟩ := (members first).mp List.mem_cons_self
    have series : (first :: rest).map (·.2) = first.2 :: rest.map (·.2) := rfl
    simp only [gathered, Bool.and_eq_true, decide_eq_true_eq, Bool.not_eq_true', ← series,
      List.any_eq_false]
    constructor
    · rintro ⟨type, fresh⟩ other member family
      obtain ⟨pair, own, rfl⟩ := List.mem_map.mp member
      have kept : pair ∈ first :: rest := (members pair).mpr ⟨own, family⟩
      refine ⟨?_, fresh _ (List.mem_map_of_mem kept)⟩
      rw [← type]
      exact uniform pair own first firstExposed (family.trans firstFamily.symm)
    · intro together
      refine ⟨(together first.2 (List.mem_map_of_mem firstExposed) firstFamily).1, ?_⟩
      intro other member
      obtain ⟨pair, kept, rfl⟩ := List.mem_map.mp member
      obtain ⟨own, family⟩ := (members pair).mp kept
      exact (together pair.2 (List.mem_map_of_mem own) family).2

private theorem gathers_add {families : Families} {shown : Snapshot}
    (gathers : Gathers families (exposures shown))
    (uniform : ∀ a ∈ exposures shown, ∀ b ∈ exposures shown,
      a.2.family = b.2.family → a.2.type = b.2.type) (reading : Reading) :
    Gathers (families.add reading) (exposures (accept shown reading)) := by
  have fits : (samples reading).all families.admits = true ↔
      ∀ sample ∈ samples reading, ∀ other ∈ shown.flatMap samples, Together other sample := by
    simp only [List.all_eq_true, admits_iff gathers uniform, map_exposures]
  unfold Families.add accept
  by_cases admitted : (samples reading).all families.admits = true
  · rw [if_pos (fits.mp admitted)]
    simp only [admitted, if_true]
    have more := gathers_foldl_addSample gathers reading.id.name (samples reading)
    rw [exposures_append]
    simpa [exposures] using more
  · rw [if_neg fun together => admitted (fits.mpr together)]
    simp only [admitted]
    exact gathers

/-- One meter after the other, the families stay the sorted samples of those accepted so far. -/
private theorem gathers_foldl_add {families : Families} {snapshot earlier : Snapshot}
    (gathers : Gathers families (exposures (accepted earlier))) :
    Gathers (snapshot.foldl Families.add families) (exposures (accepted (earlier ++ snapshot))) := by
  induction snapshot generalizing families earlier with
  | nil => simpa using gathers
  | cons reading rest ih =>
    have uniform : ∀ a ∈ exposures (accepted earlier), ∀ b ∈ exposures (accepted earlier),
        a.2.family = b.2.family → a.2.type = b.2.type := by
      intro a first b second
      have firstShown := List.mem_map_of_mem (f := (·.2)) first
      have secondShown := List.mem_map_of_mem (f := (·.2)) second
      rw [map_exposures] at firstShown secondShown
      exact type_eq_of_accepted firstShown secondShown
    have step : Gathers (families.add reading) (exposures (accepted (earlier ++ [reading]))) := by
      have last : accepted (earlier ++ [reading]) = accept (accepted earlier) reading := by
        simp [accepted]
      rw [last]
      exact gathers_add gathers uniform reading
    simpa using ih step

/-- The families of a snapshot are the samples of the accepted meters, sorted by family. -/
theorem gathers_ofSnapshot (snapshot : Snapshot) :
    Gathers (Families.ofSnapshot snapshot) (exposures (accepted snapshot)) :=
  gathers_foldl_add (show Gathers .empty (exposures (accepted [])) from gathers_empty)

/-- The accepted samples of a family, in their order. -/
def samplesOf (snapshot : Snapshot) (name : String) : List Sample :=
  ((accepted snapshot).flatMap samples).filter fun sample => sample.family = name

/-- The first accepted meter that has a sample in a family. -/
def firstOf? (snapshot : Snapshot) (name : String) : Option Reading :=
  (accepted snapshot).find? fun reading => (samples reading).any fun sample => sample.family = name

theorem samplesOf_eq (snapshot : Snapshot) (name : String) :
    ((exposures (accepted snapshot)).filter fun pair => pair.2.family = name).map (·.2) =
      samplesOf snapshot name := by
  rw [samplesOf, ← map_exposures, List.filter_map]
  rfl

private theorem head?_exposures (shown : Snapshot) (name : String) :
    (((exposures shown).filter fun pair => pair.2.family = name).head?).map (·.1) =
      (shown.find? fun reading => (samples reading).any fun sample => sample.family = name).map
        (·.id.name) := by
  induction shown with
  | nil => rfl
  | cons reading rest ih =>
    have split : exposures (reading :: rest) =
        (samples reading).map (fun sample => (reading.id.name, sample)) ++ exposures rest :=
      List.flatMap_cons
    rw [split, List.filter_append, List.filter_map, List.find?_cons]
    cases own : (samples reading).filter fun sample => sample.family = name with
    | nil =>
      have absent : (samples reading).any (fun sample => sample.family = name) = false := by
        simpa [List.filter_eq_nil_iff] using own
      simpa [Function.comp_def, own, absent] using ih
    | cons first others =>
      have present : (samples reading).any (fun sample => sample.family = name) = true := by
        have member : first ∈ (samples reading).filter fun sample => sample.family = name := by
          rw [own]
          exact List.mem_cons_self
        simp only [List.mem_filter, decide_eq_true_eq] at member
        simpa using ⟨first, member⟩
      simp [Function.comp_def, own, present]

/-- What a family of a snapshot is: some accepted samples, all of one type, under the raw name of the
first meter that has one of them. -/
structure FamilyOf (snapshot : Snapshot) (name : String) (family : Family) : Prop where
  samples : family.samples = samplesOf snapshot name
  nonempty : family.samples ≠ []
  type : ∀ sample ∈ family.samples, sample.type = family.type
  help : (firstOf? snapshot name).map (·.id.name) = some family.help

theorem familyOf_of_get? {snapshot : Snapshot}
    (found : (Families.ofSnapshot snapshot).get? name = some family) :
    FamilyOf snapshot name family := by
  have samples := samplesOf_eq snapshot name
  have help := head?_exposures (accepted snapshot) name
  rw [gathers_ofSnapshot snapshot name] at found
  cases shape : (exposures (accepted snapshot)).filter fun pair => pair.2.family = name with
  | nil =>
    rw [shape] at found
    cases found
  | cons first rest =>
    rw [shape] at found samples help
    cases found
    refine ⟨samples, List.cons_ne_nil _ _, fun sample member => ?_, help.symm⟩
    have own : ∀ sample ∈ first.2 :: rest.map (·.2),
        sample ∈ (accepted snapshot).flatMap Exposition.samples ∧ sample.family = name := by
      intro sample member
      have kept : sample ∈ samplesOf snapshot name := samples ▸ member
      simpa [samplesOf] using kept
    obtain ⟨shown, family⟩ := own sample member
    obtain ⟨firstShown, firstFamily⟩ := own first.2 List.mem_cons_self
    exact type_eq_of_accepted shown firstShown (family.trans firstFamily.symm)

/-- Every family that a sample was accepted in is there. -/
theorem get?_of_accepted {snapshot : Snapshot} {sample : Sample}
    (shown : sample ∈ (accepted snapshot).flatMap samples) :
    ∃ family, (Families.ofSnapshot snapshot).get? sample.family = some family := by
  rw [gathers_ofSnapshot snapshot sample.family]
  have member : sample ∈ samplesOf snapshot sample.family := by
    simpa [samplesOf] using shown
  rw [← samplesOf_eq] at member
  cases shape : (exposures (accepted snapshot)).filter fun pair => pair.2.family = sample.family with
  | nil =>
    rw [shape] at member
    cases member
  | cons first rest => exact ⟨_, rfl⟩

/-! ## Families that give way -/

/-- A name that the summary of another name writes lines under. -/
def ClashesWith (summary name : String) : Prop :=
  name = summary ++ "_sum" ∨ name = summary ++ "_count"

private theorem mem_foldl_withoutClashes (summaries : List String) (families : Families) :
    entry ∈ (summaries.foldl Families.withoutClashes families).entries ↔
      entry ∈ families.entries ∧ ∀ summary ∈ summaries, ¬ ClashesWith summary entry.1 := by
  induction summaries generalizing families with
  | nil => simp
  | cons summary rest ih =>
    rw [List.foldl_cons, ih, Families.withoutClashes, OrderedMap.mem_erase_iff,
      OrderedMap.mem_erase_iff, List.forall_mem_cons, ClashesWith, not_or]
    simp only [and_assoc, ne_eq]

private theorem mem_summaries (families : Families) :
    name ∈ families.summaries ↔ ∃ family, (name, family) ∈ families.entries ∧ family.type = .summary := by
  simp [Families.summaries]

/-- A family stays unless its name is one that a summary writes lines under. -/
theorem mem_withoutSummaryClashes (families : Families) :
    entry ∈ families.withoutSummaryClashes.entries ↔ entry ∈ families.entries ∧
      ∀ summary family, (summary, family) ∈ families.entries → family.type = .summary →
        ¬ ClashesWith summary entry.1 := by
  rw [Families.withoutSummaryClashes, mem_foldl_withoutClashes]
  simp only [mem_summaries]
  refine and_congr_right fun _ => ⟨fun apart summary family present type => ?_, ?_⟩
  · exact apart summary ⟨family, present, type⟩
  · rintro apart summary ⟨family, present, type⟩
    exact apart summary family present type

end Telemetry.Exposition
