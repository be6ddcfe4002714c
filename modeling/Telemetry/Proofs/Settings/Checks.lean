import Telemetry.Proofs.Settings.Value
import Telemetry.Settings.Basic

/-! Which settings load. Each key asks a form of its value, and the keys are checked one after the
other: the first value that is not acceptable is the error, and if there is none everything loads. A
reader follows some checks if it fails exactly with the first of them that fails; readers that are put
together follow their checks put together. -/
namespace Telemetry
variable {α β : Type} {properties others : Properties} {key value : String} {error : Error}

/-- What the value of a key has to be. -/
inductive Form where
  | flag
  | step
  /-- A number below a bound. -/
  | number (bound : Nat)
  /-- A number below a bound, and not zero. -/
  | positive (bound : Nat)
  | path
  | name

/-- Which values are acceptable. -/
def Form.Accepts : Form → String → Prop
  | flag, value => ∃ flag, WritesFlag value flag
  | step, value => ∃ pause, WritesDuration value pause ∧ pause ≠ .zero
  | number bound, value => ∃ n, WritesNumber (Text.trim value.toList) n ∧ n < bound
  | positive bound, value => ∃ n, WritesNumber (Text.trim value.toList) n ∧ n < bound ∧ n ≠ 0
  | path, value => (Text.trim value.toList).head? = some '/'
  | name, value => ∃ c ∈ value.toList, Text.isBlank c = false

/-- What is said of a value that is not acceptable. -/
def Form.complaint? : Form → String → Option String
  | flag, value =>
    if (readFlag? value).isSome then none
    else some ("expected a boolean, got " ++ Text.quoted value)
  | step, value =>
    (Duration.read? value).elim (some ("expected a duration, got " ++ Text.quoted value))
      fun pause => if pause = .zero then some "step must be greater than zero" else none
  | number bound, value =>
    if (readNumber? bound (Text.trim value.toList)).isSome then none
    else some ("expected a number, got " ++ Text.quoted value)
  | positive bound, value =>
    (readNumber? bound (Text.trim value.toList)).elim
      (some ("expected a number, got " ++ Text.quoted value))
      fun n => if n = 0 then some "must be at least 1" else none
  | path, value =>
    if (Text.trim value.toList).head? = some '/' then none else some "must start with '/'"
  | name, value =>
    if (Text.trimmed value).isEmpty then some "metric name must not be empty" else none

/-- A value is complained of exactly if it is not acceptable. -/
theorem Form.complaint?_eq_none_iff (form : Form) (value : String) :
    form.complaint? value = none ↔ form.Accepts value := by
  cases form with
  | flag =>
    simp only [complaint?, Accepts, ← readFlag?_eq_some_iff, ← Option.isSome_iff_exists]
    cases readFlag? value <;> simp
  | step =>
    simp only [complaint?, Accepts, ← Duration.read?_eq_some_iff]
    cases Duration.read? value <;> simp
  | number bound =>
    simp only [complaint?, Accepts, ← readNumber?_eq_some_iff, ← Option.isSome_iff_exists]
    cases readNumber? bound (Text.trim value.toList) <;> simp
  | positive bound =>
    simp only [complaint?, Accepts, ← and_assoc, ← readNumber?_eq_some_iff]
    cases readNumber? bound (Text.trim value.toList) <;> simp
  | path => simp [complaint?, Accepts]
  | name => simp [complaint?, Accepts, Text.trimmed_eq_empty_iff, Text.isBlankText]

/-- A key, and what its value has to be. -/
structure Check where
  key : String
  form : Form

namespace Check

/-- A key that is absent passes, and one with an acceptable value does. -/
def Passes (check : Check) (properties : Properties) : Prop :=
  ∀ value, properties check.key = some value → check.form.Accepts value

/-- The failure of a check. -/
def fault? (check : Check) (properties : Properties) : Option Error :=
  (properties check.key).bind fun value =>
    (check.form.complaint? value).map (.invalidSetting check.key)

theorem fault?_eq_none_iff (check : Check) (properties : Properties) :
    check.fault? properties = none ↔ check.Passes properties := by
  simp only [fault?, Passes, Option.bind_eq_none_iff, Option.map_eq_none_iff,
    Form.complaint?_eq_none_iff]

/-- A check that fails says what is wrong with the value that is there. -/
theorem fault?_eq_some_iff (check : Check) (properties : Properties) :
    check.fault? properties = some error ↔ ∃ value explanation,
      properties check.key = some value ∧ check.form.complaint? value = some explanation ∧
        error = .invalidSetting check.key explanation := by
  simp only [fault?, Option.bind_eq_some_iff, Option.map_eq_some_iff]
  grind

end Check

/-! ## Readers and the checks that they follow -/

/-- The failure of a reader. -/
def failure? : Except Error α → Option Error
  | .ok _ => none
  | .error error => some error

/-- A reader fails exactly with the first of some checks that fails. -/
def Follows (properties : Properties) (read : Except Error α) (checks : List Check) : Prop :=
  failure? read = checks.findSome? (·.fault? properties)

theorem Follows.bind {read : Except Error α} {next : α → Except Error β} {earlier later : List Check}
    (first : Follows properties read earlier)
    (rest : ∀ a, read = .ok a → Follows properties (next a) later) :
    Follows properties (read >>= next) (earlier ++ later) := by
  rw [Follows, List.findSome?_append, ← first]
  cases read with
  | error error => rfl
  | ok a => exact rest a rfl

theorem Follows.map {read : Except Error α} {checks : List Check}
    (follows : Follows properties read checks) (f : α → β) :
    Follows properties (read.map f) checks := by
  cases read <;> exact follows

/-- A reader of one key follows the check of that key: nothing is wrong where the key is absent, and
where it is there, what is said of its value is the failure. -/
theorem follows_of_key {read : Except Error α} {key : String} {form : Form}
    (absent : properties key = none → failure? read = none)
    (present : ∀ value, properties key = some value →
      failure? read = (form.complaint? value).map (.invalidSetting key)) :
    Follows properties read [⟨key, form⟩] := by
  rw [Follows, List.findSome?_singleton, Check.fault?]
  cases held : properties key with
  | none => exact absent held
  | some value => exact present value held

theorem flag_follows (properties : Properties) (key : String) (default : Bool) :
    Follows properties (properties.flag key default) [⟨key, .flag⟩] := by
  refine follows_of_key (fun absent => ?_) fun value present => ?_
  · rw [Properties.flag, absent]
    rfl
  · simp only [Properties.flag, present, Form.complaint?]
    cases readFlag? value <;> rfl

theorem step_follows (properties : Properties) (key : String) (default : Duration) :
    Follows properties (properties.step key default) [⟨key, .step⟩] := by
  refine follows_of_key (fun absent => ?_) fun value present => ?_
  · rw [Properties.step, absent]
    rfl
  · simp only [Properties.step, present, Form.complaint?]
    cases Duration.read? value with
    | none => rfl
    | some step =>
      simp only [Option.elim_some]
      split <;> rfl

theorem number_follows (properties : Properties) (key : String) (bound default : Nat) :
    Follows properties (properties.number key bound default) [⟨key, .number bound⟩] := by
  refine follows_of_key (fun absent => ?_) fun value present => ?_
  · rw [Properties.number, absent]
    rfl
  · simp only [Properties.number, present, Form.complaint?]
    cases readNumber? bound (Text.trim value.toList) <;> rfl

/-- A word that is made from a number below its bound is zero exactly if the number is. -/
private theorem wordOfNat_eq_zero_iff {n : Nat} (bound : n < 2 ^ 64) :
    UInt64.ofNat n = 0 ↔ n = 0 := by
  rw [← UInt64.toNat_inj, UInt64.toNat_ofNat_of_lt' bound]
  rfl

/-- A word that must not be zero: it is read as a number, and then looked at. -/
theorem positive_follows (properties : Properties) (key : String) {default : UInt64}
    (positive : default ≠ 0) (build : UInt64 → α) :
    Follows properties
      (properties.word64 key default >>= fun word =>
        if word = 0 then throw (.invalidSetting key "must be at least 1") else return build word)
      [⟨key, .positive (2 ^ 64)⟩] := by
  refine follows_of_key (fun absent => ?_) fun value present => ?_
  · have kept : UInt64.ofNat default.toNat ≠ 0 := by rwa [UInt64.ofNat_toNat]
    rw [Properties.word64, Properties.number, absent]
    change failure? (if UInt64.ofNat default.toNat = 0 then _ else _) = none
    rw [if_neg kept]
    rfl
  · simp only [Properties.word64, Properties.number, present, Form.complaint?]
    cases read : readNumber? (2 ^ 64) (Text.trim value.toList) with
    | none => rfl
    | some n =>
      have same := wordOfNat_eq_zero_iff (readNumber?_eq_some_iff.mp read).2
      change failure? (if UInt64.ofNat n = 0 then _ else _) = _
      simp only [Option.elim_some, same]
      split <;> rfl

/-- A text that must begin with a slash: nothing else can be wrong where it is looked at. -/
theorem path_follows (properties : Properties) (key : String) {default : String}
    (slash : default.toList.head? = some '/') (a : α) :
    Follows properties
      (if (properties.text key default).toList.head? = some '/' then return a
        else throw (.invalidSetting key "must start with '/'"))
      [⟨key, .path⟩] := by
  refine follows_of_key (fun absent => ?_) fun value present => ?_
  · rw [Properties.text, absent, if_pos slash]
    rfl
  · simp only [Properties.text, present, Form.complaint?, Text.trimmed, String.toList_ofList]
    split <;> rfl

theorem name_follows (properties : Properties) (key : String) {default : String}
    (given : default ≠ "") : Follows properties (properties.name key default) [⟨key, .name⟩] := by
  refine follows_of_key (fun absent => ?_) fun value present => ?_
  · have kept : default.isEmpty = false := by simpa using given
    simp only [Properties.name, Properties.text, absent, kept]
    rfl
  · simp only [Properties.name, Properties.text, present, Form.complaint?]
    split <;> rfl

/-- What cannot fail follows no checks. -/
theorem pure_follows (properties : Properties) (a : α) :
    Follows properties (pure a : Except Error α) [] := rfl

end Telemetry
