import Mathlib.Data.Finset.Insert
import Mathlib.Data.Finset.Dedup
import Telemetry.Proofs.Exposition.Families

/-! Meters come whole or not at all. A meter is looked at before anything is written: if a family that it
needs is there with another type, or has taken one of its series, it is passed over; otherwise all its
lines are put behind those that are there. So the families are the lines of the accepted meters, one
meter after the other, and later meters only add to them. -/
namespace Telemetry.Exposition
variable {snapshot before later shown : Snapshot} {reading : Reading} {name : String} {family : Family}

/-! ## Step by step -/

/-- The text of a sample, without the end of its line. -/
def Sample.entry (sample : Sample) : String := sample.series ++ " " ++ sample.value

/-- What is kept of a family while meters are taken in: its lines as texts, and apart from them the series
that it has taken. -/
structure Ledger where
  type : FamilyType
  help : String
  series : Finset String
  lines : List String

/-- Ledgers by the name of their family. -/
abbrev Ledgers := OrderedMap String Ledger

namespace Ledgers

/-- Looks at some samples one after the other, up to the first that does not fit. -/
def fits (ledgers : Ledgers) : List Sample → Bool
  | [] => true
  | sample :: rest =>
    match ledgers.get? sample.family with
    | none => fits ledgers rest
    | some ledger =>
      if ledger.type ≠ sample.type then false
      else if sample.series ∈ ledger.series then false
      else fits ledgers rest

/-- Writes one sample down, in a new ledger if its family has none. -/
def enter (help : String) (ledgers : Ledgers) (sample : Sample) : Ledgers :=
  let ledger := (ledgers.get? sample.family).getD ⟨sample.type, help, ∅, []⟩
  ledgers.insert sample.family { ledger with
    lines := ledger.lines ++ [sample.entry]
    series := insert sample.series ledger.series }

/-- Writes the samples of a meter down, if all of them fit. -/
def add (ledgers : Ledgers) (reading : Reading) : Ledgers :=
  if ledgers.fits (samples reading) then (samples reading).foldl (enter reading.id.name) ledgers
  else ledgers

/-- The ledgers of a snapshot, the meters being taken in their order. -/
def ofSnapshot (snapshot : Snapshot) : Ledgers := snapshot.foldl add .empty

end Ledgers

/-- The ledger of a family: its series are exactly those of its lines. -/
def Family.ledger (family : Family) : Ledger where
  type := family.type
  help := family.help
  series := (family.samples.map Sample.series).toFinset
  lines := family.samples.map Sample.entry

/-- Ledgers that are kept of these families. -/
def Keeps (ledgers : Ledgers) (families : Families) : Prop :=
  ∀ name, ledgers.get? name = (families.get? name).map Family.ledger

namespace Keeps
variable {ledgers : Ledgers} {families : Families}

theorem fits_eq (keeps : Keeps ledgers families) (samples : List Sample) :
    ledgers.fits samples = samples.all families.admits := by
  induction samples with
  | nil => rfl
  | cons sample rest ih =>
    rw [Ledgers.fits, List.all_cons, keeps sample.family, Families.admits, ← ih]
    cases families.get? sample.family with
    | none => rfl
    | some family =>
      have taken : sample.series ∈ family.ledger.series ↔
          family.samples.any (fun other => other.series = sample.series) = true := by
        simp [Family.ledger]
      have sameType : family.ledger.type = family.type := rfl
      simp only [Option.map_some, taken, sameType]
      by_cases type : family.type = sample.type
      · cases family.samples.any (fun other => other.series = sample.series) <;> simp [type]
      · simp [type]

theorem enter (keeps : Keeps ledgers families) (help : String) (sample : Sample) :
    Keeps (ledgers.enter help sample) (families.addSample help sample) := by
  intro name
  unfold Ledgers.enter Families.addSample
  by_cases own : name = sample.family
  · subst own
    rw [OrderedMap.get?_insert_self, OrderedMap.get?_insert_self, keeps sample.family]
    cases families.get? sample.family with
    | none => rfl
    | some family =>
      have series : insert sample.series (family.samples.map Sample.series).toFinset =
          ((family.samples ++ [sample]).map Sample.series).toFinset := by
        ext other
        simp only [Finset.mem_insert, List.mem_toFinset, List.map_append, List.mem_append,
          List.map_cons, List.map_nil, List.mem_singleton]
        exact or_comm
      simp only [Option.map_some, Option.getD_some, Family.ledger, series, List.map_append,
        List.map_cons, List.map_nil]
  · rw [OrderedMap.get?_insert_of_ne _ _ own, OrderedMap.get?_insert_of_ne _ _ own, keeps name]

theorem foldl_enter (keeps : Keeps ledgers families) (help : String) (samples : List Sample) :
    Keeps (samples.foldl (Ledgers.enter help) ledgers)
      (samples.foldl (Families.addSample help) families) := by
  induction samples generalizing ledgers families with
  | nil => exact keeps
  | cons sample rest ih => exact ih (keeps.enter help sample)

theorem add (keeps : Keeps ledgers families) (reading : Reading) :
    Keeps (ledgers.add reading) (families.add reading) := by
  unfold Ledgers.add Families.add
  simp only [keeps.fits_eq]
  split
  · exact keeps.foldl_enter _ _
  · exact keeps

theorem foldl_add (keeps : Keeps ledgers families) (snapshot : Snapshot) :
    Keeps (snapshot.foldl Ledgers.add ledgers) (snapshot.foldl Families.add families) := by
  induction snapshot generalizing ledgers families with
  | nil => exact keeps
  | cons reading rest ih => exact ih (keeps.add reading)

end Keeps

/-- Step by step, the same families come about. -/
theorem keeps_ofSnapshot (snapshot : Snapshot) :
    Keeps (Ledgers.ofSnapshot snapshot) (Families.ofSnapshot snapshot) :=
  Keeps.foldl_add (fun _ => rfl) snapshot

/-! ## Accepted meters -/

/-- A meter that keeps another one out: it has put a family that the other one needs under another type,
or exposed one of its series there. -/
def Blocks (earlier reading : Reading) : Prop :=
  ∃ other ∈ samples earlier, ∃ sample ∈ samples reading, other.family = sample.family ∧
    (other.type ≠ sample.type ∨ other.series = sample.series)

theorem not_blocks_iff {earlier : Reading} : ¬ Blocks earlier reading ↔
    ∀ other ∈ samples earlier, ∀ sample ∈ samples reading, Together other sample := by
  unfold Blocks Together
  push Not
  rfl

private theorem accepted_append_singleton (snapshot : Snapshot) (reading : Reading) :
    accepted (snapshot ++ [reading]) = accept (accepted snapshot) reading := by
  simp [accepted]

/-- A meter is accepted unless one that was accepted before keeps it out. -/
theorem accept_eq (shown : Snapshot) (reading : Reading) :
    ((∀ earlier ∈ shown, ¬ Blocks earlier reading) → accept shown reading = shown ++ [reading]) ∧
    ((∃ earlier ∈ shown, Blocks earlier reading) → accept shown reading = shown) := by
  have fits : (∀ sample ∈ samples reading, ∀ other ∈ shown.flatMap samples, Together other sample) ↔
      ∀ earlier ∈ shown, ¬ Blocks earlier reading := by
    simp only [not_blocks_iff, List.mem_flatMap]
    constructor
    · intro together earlier member other own sample needed
      exact together sample needed other ⟨earlier, member, own⟩
    · rintro together sample needed other ⟨earlier, member, own⟩
      exact together earlier member other own sample needed
  unfold accept
  constructor
  · intro free
    rw [if_pos (fits.mpr free)]
  · rintro ⟨earlier, member, blocked⟩
    rw [if_neg]
    intro together
    exact fits.mp together earlier member blocked

/-- Whoever was accepted stays, and those who are accepted later come behind. -/
theorem accepted_append (before later : Snapshot) :
    ∃ more, more.Sublist later ∧ accepted (before ++ later) = accepted before ++ more := by
  induction later generalizing before with
  | nil => exact ⟨[], .slnil, by simp⟩
  | cons reading rest ih =>
    obtain ⟨more, sublist, split⟩ := ih (before ++ [reading])
    rw [List.append_assoc, List.singleton_append] at split
    rw [split, accepted_append_singleton]
    by_cases blocked : ∃ earlier ∈ accepted before, Blocks earlier reading
    · rw [(accept_eq _ _).2 blocked]
      exact ⟨more, sublist.cons reading, rfl⟩
    · have free : ∀ earlier ∈ accepted before, ¬ Blocks earlier reading := by
        intro earlier member clash
        exact blocked ⟨earlier, member, clash⟩
      rw [(accept_eq _ _).1 free]
      exact ⟨reading :: more, sublist.cons_cons reading, by simp⟩

/-! ## Lines -/

/-- The lines of a family; none if it is not there. -/
def Families.linesOf (families : Families) (name : String) : List String :=
  match families.get? name with
  | none => []
  | some family => family.samples.map Sample.line

/-- The lines that a meter has in a family. -/
def linesIn (name : String) (reading : Reading) : List String :=
  ((samples reading).filter fun sample => sample.family = name).map Sample.line

/-- The lines of a family are those of the accepted meters, one meter after the other. -/
theorem linesOf_ofSnapshot (snapshot : Snapshot) (name : String) :
    (Families.ofSnapshot snapshot).linesOf name = (accepted snapshot).flatMap (linesIn name) := by
  have lines (exposed : List (String × Sample)) :
      (match gathered exposed with
        | none => []
        | some family => family.samples.map Sample.line) =
        (exposed.map (·.2)).map Sample.line := by
    cases exposed <;> rfl
  rw [Families.linesOf, gathers_ofSnapshot snapshot name, lines, samplesOf_eq, samplesOf,
    List.filter_flatMap, List.map_flatMap]
  rfl

private theorem gathered_append {exposed : List (String × Sample)}
    (found : gathered exposed = some family) (more : List (String × Sample)) :
    gathered (exposed ++ more) =
      some { family with samples := family.samples ++ more.map (·.2) } := by
  cases exposed with
  | nil => cases found
  | cons first rest =>
    cases found
    simp [gathered]

/-- Meters that are taken in later only put samples behind those of a family. -/
theorem ofSnapshot_append (found : (Families.ofSnapshot before).get? name = some family)
    (later : Snapshot) : ∃ more, (Families.ofSnapshot (before ++ later)).get? name =
      some { family with samples := family.samples ++ more } := by
  obtain ⟨added, -, split⟩ := accepted_append before later
  rw [gathers_ofSnapshot before name] at found
  rw [gathers_ofSnapshot (before ++ later) name, split, exposures_append, List.filter_append,
    gathered_append found]
  exact ⟨_, rfl⟩

/-- The first accepted meter of a family gives it the type and the help text. -/
private theorem first_of_get? (found : (Families.ofSnapshot snapshot).get? name = some family) :
    ∃ first, firstOf? snapshot name = some first ∧ first.id.name = family.help ∧
      ∃ sample ∈ samples first, sample.family = name ∧ sample.type = family.type := by
  have shape := familyOf_of_get? found
  obtain ⟨first, isFirst, help⟩ := Option.map_eq_some_iff.mp shape.help
  have member : first ∈ accepted snapshot := List.mem_of_find?_eq_some isFirst
  obtain ⟨sample, own, inFamily⟩ : ∃ sample ∈ samples first, sample.family = name := by
    simpa using List.find?_some isFirst
  have kept : sample ∈ family.samples := by
    rw [shape.samples, samplesOf, List.mem_filter, List.mem_flatMap]
    exact ⟨⟨first, member, own⟩, decide_eq_true inFamily⟩
  exact ⟨first, isFirst, help, sample, own, inFamily, shape.type sample kept⟩

private theorem samples_ne_nil (reading : Reading) : samples reading ≠ [] := by
  unfold samples
  cases reading.value <;> simp

/-- Every meter has a line in some family. -/
private theorem exists_linesIn_ne_nil (reading : Reading) : ∃ name, linesIn name reading ≠ [] := by
  obtain ⟨sample, member⟩ := List.exists_mem_of_ne_nil _ (samples_ne_nil reading)
  refine ⟨sample.family, List.ne_nil_of_mem (a := sample.line) ?_⟩
  exact List.mem_map_of_mem (List.mem_filter.mpr ⟨member, decide_eq_true rfl⟩)

/-- A meter that is kept out leaves the families as they were. -/
theorem ofSnapshot_of_blocked (blocked : ∃ earlier ∈ accepted before, Blocks earlier reading) :
    Families.ofSnapshot (before ++ [reading]) = Families.ofSnapshot before := by
  apply OrderedMap.ext_get?
  intro name
  rw [gathers_ofSnapshot _ name, gathers_ofSnapshot _ name, accepted_append_singleton,
    (accept_eq _ _).2 blocked]

/-- A meter that nobody keeps out has all its lines put behind those that are there. -/
theorem linesOf_of_free (free : ∀ earlier ∈ accepted before, ¬ Blocks earlier reading)
    (name : String) :
    (Families.ofSnapshot (before ++ [reading])).linesOf name =
      (Families.ofSnapshot before).linesOf name ++ linesIn name reading := by
  rw [linesOf_ofSnapshot, linesOf_ofSnapshot, accepted_append_singleton, (accept_eq _ _).1 free,
    List.flatMap_append, List.flatMap_singleton]

/-- **Meters come whole or not at all, and who comes first is served first.** Wherever a meter stands in a
snapshot, all its lines are put behind those that are there, exactly if no meter that was accepted before
it has put a family that it needs under another type, or exposed one of its series there. Otherwise the
families are what they were. When all meters were taken in, the lines of each family are those of the
accepted meters, one meter after the other: what is there after one of them is still there, with nothing
but lines behind it. Each family has its type and its help text from the first accepted meter that it has
a line of; and the series that are written down for it are those of its lines. -/
theorem meters_come_whole_or_not_at_all (before : Snapshot) (reading : Reading) (later : Snapshot) :
    let snapshot := before ++ reading :: later
    let old := Families.ofSnapshot before
    let new := Families.ofSnapshot (before ++ [reading])
    let final := Families.ofSnapshot snapshot
    ((∀ name, new.linesOf name = old.linesOf name ++ linesIn name reading) ↔
      ∀ earlier ∈ accepted before, ¬ Blocks earlier reading) ∧
    ((∀ earlier ∈ accepted before, ¬ Blocks earlier reading) →
      ∃ more, more.Sublist later ∧ accepted snapshot = accepted before ++ reading :: more) ∧
    ((∃ earlier ∈ accepted before, Blocks earlier reading) → new = old ∧
      ∃ more, more.Sublist later ∧ accepted snapshot = accepted before ++ more) ∧
    (∀ name, final.linesOf name = (accepted snapshot).flatMap (linesIn name)) ∧
    (∀ name family, new.get? name = some family → ∃ more,
      final.get? name = some { family with samples := family.samples ++ more }) ∧
    (∀ name family, final.get? name = some family → ∃ first,
      firstOf? snapshot name = some first ∧ first.id.name = family.help ∧
        ∃ sample ∈ samples first, sample.family = name ∧ sample.type = family.type) ∧
    ∀ name, (Ledgers.ofSnapshot snapshot).get? name = (final.get? name).map Family.ledger := by
  intro snapshot old new final
  have split : snapshot = (before ++ [reading]) ++ later := by simp [snapshot]
  obtain ⟨more, sublist, shape⟩ := accepted_append (before ++ [reading]) later
  rw [← split, accepted_append_singleton] at shape
  refine ⟨⟨?_, linesOf_of_free⟩, ?_, ?_, linesOf_ofSnapshot snapshot, ?_, ?_,
    keeps_ofSnapshot snapshot⟩
  · intro whole earlier member clash
    have same : new = old := ofSnapshot_of_blocked ⟨earlier, member, clash⟩
    obtain ⟨name, some⟩ := exists_linesIn_ne_nil reading
    have added := whole name
    rw [same] at added
    exact some (List.self_eq_append_right.mp added)
  · intro free
    rw [(accept_eq _ _).1 free, List.append_assoc, List.singleton_append] at shape
    exact ⟨more, sublist, shape⟩
  · intro blocked
    rw [(accept_eq _ _).2 blocked] at shape
    exact ⟨ofSnapshot_of_blocked blocked, more, sublist, shape⟩
  · intro name family found
    have grown := ofSnapshot_append found later
    rwa [← split] at grown
  · intro name family found
    exact first_of_get? found

/-- A counter comes too late where a gauge has the family. -/
example : accepted [⟨⟨"queue.depth", .empty⟩, .gauge .one⟩, ⟨⟨"queue_depth", .empty⟩, .counter 7⟩] =
    [⟨⟨"queue.depth", .empty⟩, .gauge .one⟩] := by
  decide +kernel

end Telemetry.Exposition
