import Telemetry.Backend.Selection
import Telemetry.Proofs.Settings.Loading
import Telemetry.Proofs.Tags

/-! Settings that load, and the backend that is selected from them. What was checked when the settings
were read is not refused again: only a key and an address that series can be sent to may be missing. -/
namespace Telemetry
variable {properties : Properties} {settings : Settings} {uri : String}

/-! ## Where series are sent to -/

namespace Series

/-- Why series cannot be sent to an address: without the slashes at its end it does not read, or it
reads as one that nothing is relative to. -/
def Refuses (uri : String) (fault : Url.Fault) : Prop :=
  Url.read (withoutEndSlashes uri) none = .error fault ∨
    ∃ server, Url.read (withoutEndSlashes uri) none = .ok server ∧ server.isOpaque = true ∧
      fault = .relativeToUnstructured

private theorem read_path_of_opaque {server : Url} (isOpaque : server.isOpaque = true) :
    Url.read path (some server) = .error .relativeToUnstructured := by
  change (if server.isOpaque then _ else _) = _
  rw [if_pos isOpaque]

private theorem path_toList : path.toList = '/' :: 'a' :: "pi/v1/series".toList := by decide

/-- The path has its place on every other address, be it of a file or of a server. -/
private theorem exists_read_path {server : Url} (structured : server.isOpaque = false) :
    ∃ url, Url.read path (some server) = .ok url := by
  change ∃ url, (if server.isOpaque then _ else if server.scheme = "file" then
    Url.readFile (some server) path.toList else Url.readRelative server path.toList) = .ok url
  rw [structured, if_neg Bool.false_ne_true, path_toList]
  split
  · -- The slash in front is a single one, so no host is read.
    have single : Url.separates true 'a' = false := by decide
    have slash : Url.separates true '/' = true := by decide
    simp only [Url.readFile, slash, if_true, List.head?_cons, Option.any_some, single,
      Bool.false_eq_true, if_false]
    split
    · exact ⟨_, rfl⟩
    · split <;> exact ⟨_, rfl⟩
  · exact ⟨_, rfl⟩

theorem endpointOf_eq_error_iff {fault : Url.Fault} :
    endpointOf uri = .error fault ↔ Refuses uri fault := by
  unfold endpointOf Refuses
  cases Url.read (withoutEndSlashes uri) none with
  | error other => simp
  | ok server =>
    cases isOpaque : server.isOpaque with
    | true => simp [isOpaque, read_path_of_opaque isOpaque, eq_comm (a := fault)]
    | false =>
      obtain ⟨url, read⟩ := exists_read_path isOpaque
      simp [isOpaque, read]

/-- Why series cannot be sent: no key is set but a blank one, or the address is refused. -/
def Withheld (properties : Properties) (uri : String) (error : Error) : Prop :=
  (∀ key, properties "datadog.api-key" = some key → Text.isBlankText key = true) ∧
      error = .missingSetting "datadog.api-key" ∨
    (∃ key, properties "datadog.api-key" = some key ∧ Text.isBlankText key = false) ∧
      ∃ fault, Refuses uri fault ∧ error = .invalidSetting "datadog.uri" fault.message

theorem endpoint_eq_error_iff {settings : DatadogSettings} {error : Error}
    (loaded : settings.From properties) :
    endpoint settings = .error error ↔ Withheld properties settings.uri error := by
  unfold endpoint Withheld
  simp only [← nonBlank?_eq_none_iff, ← nonBlank?_eq_some_iff, ← loaded.apiKey,
    ← Option.ne_none_iff_exists', ← endpointOf_eq_error_iff]
  cases settings.apiKey with
  | none => simp [eq_comm (b := error)]
  | some key => cases endpointOf settings.uri <;> simp [eq_comm (b := error)]

end Series

/-! ## How readings leave -/

/-- The time between two publications to a backend, if readings are published to it. -/
def Settings.step? (settings : Settings) : Backend → Option Duration
  | .datadog => some settings.datadog.step
  | .graphite => some settings.graphite.step
  | .ganglia => some settings.ganglia.step
  | .prometheus | .simple => none

/-- The exporter that belongs to a backend: readings are fetched with the help lines that are set, or
published at the pace that is set, or they stay. -/
inductive Settings.Fits (settings : Settings) : Backend → Exporter → Prop
  | scrape : settings.Fits .prometheus (.scrape settings.prometheus.descriptions)
  | push (publisher : Publisher) (paced : settings.step? publisher.backend = some publisher.step) :
      settings.Fits publisher.backend (.push publisher)
  | none : settings.Fits .simple .none

private theorem Settings.fits_of_push {backend : Backend} {step : Duration} {exporter : Exporter}
    (paced : settings.step? backend = some step)
    (made : .push <$> Publisher.new backend step = (.ok exporter : Except Error Exporter)) :
    settings.Fits backend exporter := by
  unfold Publisher.new at made
  split at made
  · rename_i pos
    cases made
    exact .push ⟨backend, step, pos⟩ paced
  · cases made

/-- What is made for a backend belongs to it. -/
private theorem Settings.fits_of_exporter {backend : Backend} {exporter : Exporter}
    (made : settings.exporter backend = .ok exporter) : settings.Fits backend exporter := by
  cases backend with
  | datadog =>
    obtain ⟨url, -, made⟩ := bind_eq_ok_iff.mp made
    exact Settings.fits_of_push rfl made
  | graphite => exact Settings.fits_of_push rfl made
  | ganglia => exact Settings.fits_of_push rfl made
  | prometheus =>
    cases made
    exact .scrape
  | simple =>
    cases made
    exact .none

private theorem push_ne_error {backend : Backend} {step : Duration} (positive : step ≠ .zero)
    (error : Error) : .push <$> Publisher.new backend step ≠ (.error error : Except Error Exporter) := by
  have pos : 0 < step.nanoseconds :=
    Nat.pos_of_ne_zero fun zero => positive (congrArg Duration.mk zero)
  rw [Publisher.new, dif_pos pos]
  exact nofun

/-- From sound settings every exporter is made, unless series are wanted and cannot be sent. -/
theorem Settings.Sound.exporter_eq_error_iff (sound : settings.Sound) {backend : Backend}
    {error : Error} : settings.exporter backend = .error error ↔
      backend = .datadog ∧ Series.endpoint settings.datadog = .error error := by
  cases backend with
  | datadog =>
    unfold Settings.exporter
    cases Series.endpoint settings.datadog with
    | error cause => exact ⟨fun same => ⟨rfl, by cases same; rfl⟩, fun same => by cases same.2; rfl⟩
    | ok url => exact ⟨fun failed => absurd failed (push_ne_error sound.datadogStep error), nofun⟩
  | graphite => exact ⟨fun failed => absurd failed (push_ne_error sound.graphiteStep error), nofun⟩
  | ganglia => exact ⟨fun failed => absurd failed (push_ne_error sound.gangliaStep error), nofun⟩
  | prometheus => exact ⟨nofun, nofun⟩
  | simple => exact ⟨nofun, nofun⟩

/-! ## Which backend is selected -/

/-- The first candidate that is enabled; readings stay in memory if none is. -/
def Settings.Chooses (settings : Settings) (candidates : List Backend) (backend : Backend) : Prop :=
  (∃ before after, candidates = before ++ backend :: after ∧ settings.enables backend = true ∧
    ∀ other ∈ before, settings.enables other = false) ∨
  backend = .simple ∧ ∀ other ∈ candidates, settings.enables other = false

private theorem Settings.chooses_choose (selection : Selection) (settings : Settings) :
    settings.Chooses selection.candidates (selection.choose settings) := by
  unfold Selection.choose
  cases found : selection.candidates.find? settings.enables with
  | none => exact .inr ⟨rfl, by simpa using found⟩
  | some backend =>
    obtain ⟨enabled, before, after, split, disabled⟩ := List.find?_eq_some_iff_append.mp found
    exact .inl ⟨before, after, split, enabled, by simpa using disabled⟩

/-- What comes of selecting a backend. -/
structure Selection.Outcome (properties : Properties) (settings : Settings)
    (candidates : List Backend) (clock : Clock) (chosen : Backend) : Prop where
  first : settings.Chooses candidates chosen
  fails_iff : ∀ error, Selection.select { candidates, clock } settings = .error error ↔
    chosen = .datadog ∧ Series.Withheld properties settings.datadog.uri error
  never_zero : ∀ backend,
    Selection.select { candidates, clock } settings ≠ .error (Publisher.zeroStep backend)
  succeeds : ∀ active, Selection.select { candidates, clock } settings = .ok active →
    active.backend = chosen ∧ settings.Fits chosen active.exporter ∧
      active.registry.commonTags = settings.commonTags ∧ active.registry.index = .empty ∧
      active.registry.clock = clock
  existing : ∀ active others,
    Selection.select { candidates, clock, existing := some active } others = .ok active

/-- No failure that is about sending series is about a pause. -/
theorem Series.Withheld.ne_zeroStep {error : Error} (withheld : Withheld properties uri error)
    (backend : Backend) : error ≠ Publisher.zeroStep backend := by
  rintro rfl
  rcases withheld with ⟨-, missing⟩ | ⟨-, fault, -, invalid⟩
  · cases missing
  · have key : backend.name ++ ".step" = "datadog.uri" := (Error.invalidSetting.inj invalid).1
    revert key
    cases backend <;> decide

/-- **Settings that load can be selected from**: the first enabled candidate is taken, with the
exporter that belongs to it and a registry with the common tags that are set, and readings stay in
memory if no candidate is enabled. It fails exactly if series cannot be sent where they are wanted, and
never for want of a pause. A backend that is there already is taken whatever the settings say. -/
theorem loaded_settings_select (loaded : Settings.read properties = .ok settings)
    (candidates : List Backend) (clock : Clock) :
    ∃ chosen, Selection.Outcome properties settings candidates clock chosen := by
  have origin := Settings.from_of_read loaded
  let selection : Selection := { candidates, clock }
  have selected : selection.select settings =
      (settings.exporter (selection.choose settings)).map fun exporter =>
        ⟨selection.choose settings, .new clock settings.commonTags, exporter⟩ := rfl
  have fails (error : Error) : selection.select settings = .error error ↔
      selection.choose settings = .datadog ∧
        Series.Withheld properties settings.datadog.uri error := by
    rw [← Series.endpoint_eq_error_iff origin.datadog, ← origin.sound.exporter_eq_error_iff,
      selected]
    cases settings.exporter (selection.choose settings) <;> simp [Except.map]
  refine ⟨selection.choose settings, settings.chooses_choose selection, fails, ?_, ?_,
    fun _ _ => rfl⟩
  · intro backend failed
    exact ((fails _).mp failed).2.ne_zeroStep backend rfl
  · intro active taken
    rw [selected] at taken
    cases made : settings.exporter (selection.choose settings) with
    | error error =>
      rw [made] at taken
      cases taken
    | ok exporter =>
      rw [made] at taken
      cases taken
      exact ⟨rfl, Settings.fits_of_exporter made, Tags.empty_merge _, rfl, rfl⟩

/-- Properties that want series to be sent to an address. -/
def seriesTo (uri : String) : Properties := fun key =>
  [("datadog.enabled", "true"), ("datadog.api-key", "k"), ("datadog.uri", uri)].lookup key

theorem loaded_settings_select_series :
    let settings : Settings :=
      { datadog := { enabled := true, apiKey := some "k", uri := "https://series.test/" } }
    Settings.read (seriesTo " https://series.test/ ") = .ok settings ∧
      ∃ chosen, Selection.Outcome (seriesTo " https://series.test/ ") settings
        [.ganglia, .datadog, .prometheus] (.atWallMillis 5) chosen :=
  ⟨rfl, loaded_settings_select rfl _ _⟩

/-- An address may read and still be refused: series have no place on one for mail. -/
theorem mail_address_refused :
    ∃ settings url, Settings.read (seriesTo "mailto:ops") = .ok settings ∧
      settings.Chooses Backend.priority .datadog ∧ settings.datadog.apiKey = some "k" ∧
      Text.isBlankText "k" = false ∧ Url.read settings.datadog.uri none = .ok url ∧
      Selection.select { clock := .atWallMillis 0 } settings =
        .error (.invalidSetting "datadog.uri" "relative URL with a cannot-be-a-base base") :=
  ⟨{ datadog := { enabled := true, apiKey := some "k", uri := "mailto:ops" } },
    { scheme := "mailto", path := "ops".toList }, rfl,
    .inl ⟨[], [.graphite, .ganglia, .prometheus], rfl, rfl, nofun⟩, rfl, by decide, rfl, rfl⟩

end Telemetry
