import Telemetry.Proofs.Settings.Checks

/-! Loading settings. Reading follows a list of checks, one for each key that can be refused, and what
loads is sound: every pause is positive, batches hold something, the path begins with a slash, names
are there and trimmed, and a blank key for the interface counts as none. -/
namespace Telemetry
variable {α β : Type} {properties others : Properties} {error : Error}

/-! ## What is checked, and in which order -/

/-- The keys that can be refused, in the order in which they are looked at. -/
def Settings.checks : List Check := [
  ⟨"prometheus.enabled", .flag⟩,
  ⟨"prometheus.descriptions", .flag⟩,
  ⟨"prometheus.path", .path⟩,
  ⟨"datadog.enabled", .flag⟩,
  ⟨"datadog.step", .step⟩,
  ⟨"datadog.batch-size", .positive (2 ^ 64)⟩,
  ⟨"graphite.enabled", .flag⟩,
  ⟨"graphite.port", .number (2 ^ 16)⟩,
  ⟨"graphite.step", .step⟩,
  ⟨"ganglia.enabled", .flag⟩,
  ⟨"ganglia.port", .number (2 ^ 16)⟩,
  ⟨"ganglia.step", .step⟩,
  ⟨"ganglia.ttl", .number (2 ^ 32)⟩,
  ⟨"ganglia.tmax", .number (2 ^ 32)⟩,
  ⟨"ganglia.dmax", .number (2 ^ 32)⟩,
  ⟨"metrics.web.server-requests.name", .name⟩,
  ⟨"metrics.web.client-requests.name", .name⟩]

theorem PrometheusSettings.read_follows (properties : Properties) :
    Follows properties (PrometheusSettings.read properties) (Settings.checks.take 3) :=
  (flag_follows ..).bind fun _ _ => (flag_follows ..).bind fun _ _ =>
    path_follows properties "prometheus.path" rfl _

theorem DatadogSettings.read_follows (properties : Properties) :
    Follows properties (DatadogSettings.read properties) ((Settings.checks.drop 3).take 3) :=
  (flag_follows ..).bind fun _ _ => (step_follows ..).bind fun _ _ =>
    positive_follows properties "datadog.batch-size" (by decide) _

theorem GraphiteSettings.read_follows (properties : Properties) :
    Follows properties (GraphiteSettings.read properties) ((Settings.checks.drop 6).take 3) :=
  (flag_follows ..).bind fun _ _ => ((number_follows ..).map _).bind fun _ _ =>
    (step_follows ..).bind fun _ _ => pure_follows properties _

theorem GangliaSettings.read_follows (properties : Properties) :
    Follows properties (GangliaSettings.read properties) ((Settings.checks.drop 9).take 6) :=
  (flag_follows ..).bind fun _ _ => ((number_follows ..).map _).bind fun _ _ =>
    (step_follows ..).bind fun _ _ => ((number_follows ..).map _).bind fun _ _ =>
      ((number_follows ..).map _).bind fun _ _ => ((number_follows ..).map _).bind fun _ _ =>
        pure_follows properties _

theorem Settings.read_follows (properties : Properties) :
    Follows properties (Settings.read properties) Settings.checks :=
  (PrometheusSettings.read_follows properties).bind fun _ _ =>
    (DatadogSettings.read_follows properties).bind fun _ _ =>
      (GraphiteSettings.read_follows properties).bind fun _ _ =>
        (GangliaSettings.read_follows properties).bind fun _ _ =>
          (name_follows properties "metrics.web.server-requests.name" (by decide)).bind fun _ _ =>
            (name_follows properties "metrics.web.client-requests.name" (by decide)).bind fun _ _ =>
              pure_follows properties _

/-! ## What each setting is read from -/

theorem bind_eq_ok_iff {read : Except Error α} {next : α → Except Error β} {b : β} :
    read >>= next = .ok b ↔ ∃ a, read = .ok a ∧ next a = .ok b := by
  cases read with
  | error error => exact ⟨nofun, fun ⟨_, ok, _⟩ => nomatch ok⟩
  | ok a => exact ⟨fun ok => ⟨a, rfl, ok⟩, fun ⟨_, same, ok⟩ => by cases same; exact ok⟩

/-- The settings of the scrape endpoint, each from its own key. -/
structure PrometheusSettings.From (properties : Properties) (settings : PrometheusSettings) :
    Prop where
  enabled : properties.flag "prometheus.enabled" true = .ok settings.enabled
  descriptions : properties.flag "prometheus.descriptions" true = .ok settings.descriptions
  path : settings.path = properties.text "prometheus.path" "/prometheus"
  slash : settings.path.toList.head? = some '/'

theorem PrometheusSettings.from_of_read {settings : PrometheusSettings}
    (read : PrometheusSettings.read properties = .ok settings) : settings.From properties := by
  obtain ⟨enabled, enabledRead, read⟩ := bind_eq_ok_iff.mp read
  obtain ⟨descriptions, descriptionsRead, read⟩ := bind_eq_ok_iff.mp read
  simp only at read
  split at read
  · rename_i slash
    cases read
    exact ⟨enabledRead, descriptionsRead, rfl, slash⟩
  · cases read

/-- The settings of the series backend, each from its own key. -/
structure DatadogSettings.From (properties : Properties) (settings : DatadogSettings) :
    Prop where
  enabled : properties.flag "datadog.enabled" false = .ok settings.enabled
  apiKey : settings.apiKey = properties.nonBlank? "datadog.api-key"
  uri : settings.uri = properties.text "datadog.uri" "https://app.datadoghq.com"
  hostTag : settings.hostTag = properties.text "datadog.host-tag" "instance"
  step : properties.step "datadog.step" (.ofSeconds 10) = .ok settings.step
  batchSize : properties.word64 "datadog.batch-size" 10000 = .ok settings.batchSize
  some : settings.batchSize ≠ 0

theorem DatadogSettings.from_of_read {settings : DatadogSettings}
    (read : DatadogSettings.read properties = .ok settings) : settings.From properties := by
  obtain ⟨enabled, enabledRead, read⟩ := bind_eq_ok_iff.mp read
  obtain ⟨step, stepRead, read⟩ := bind_eq_ok_iff.mp read
  obtain ⟨batchSize, batchSizeRead, read⟩ := bind_eq_ok_iff.mp read
  split at read
  · cases read
  · rename_i some
    cases read
    exact ⟨enabledRead, rfl, rfl, rfl, stepRead, batchSizeRead, some⟩

/-- The settings of the plaintext backend, each from its own key. -/
structure GraphiteSettings.From (properties : Properties) (settings : GraphiteSettings) :
    Prop where
  enabled : properties.flag "graphite.enabled" false = .ok settings.enabled
  host : settings.host = properties.text "graphite.host" "localhost"
  port : properties.word16 "graphite.port" 2003 = .ok settings.port
  step : properties.step "graphite.step" (.ofSeconds 10) = .ok settings.step

theorem GraphiteSettings.from_of_read {settings : GraphiteSettings}
    (read : GraphiteSettings.read properties = .ok settings) : settings.From properties := by
  obtain ⟨enabled, enabledRead, read⟩ := bind_eq_ok_iff.mp read
  obtain ⟨port, portRead, read⟩ := bind_eq_ok_iff.mp read
  obtain ⟨step, stepRead, read⟩ := bind_eq_ok_iff.mp read
  cases read
  exact ⟨enabledRead, rfl, portRead, stepRead⟩

/-- The settings of the backend that metrics are announced to, each from its own key. -/
structure GangliaSettings.From (properties : Properties) (settings : GangliaSettings) :
    Prop where
  enabled : properties.flag "ganglia.enabled" false = .ok settings.enabled
  host : settings.host = properties.text "ganglia.host" "localhost"
  port : properties.word16 "ganglia.port" 8649 = .ok settings.port
  step : properties.step "ganglia.step" (.ofSeconds 10) = .ok settings.step
  ttl : properties.word32 "ganglia.ttl" 1 = .ok settings.ttl
  tmax : properties.word32 "ganglia.tmax" 60 = .ok settings.tmax
  dmax : properties.word32 "ganglia.dmax" 0 = .ok settings.dmax

theorem GangliaSettings.from_of_read {settings : GangliaSettings}
    (read : GangliaSettings.read properties = .ok settings) : settings.From properties := by
  obtain ⟨enabled, enabledRead, read⟩ := bind_eq_ok_iff.mp read
  obtain ⟨port, portRead, read⟩ := bind_eq_ok_iff.mp read
  obtain ⟨step, stepRead, read⟩ := bind_eq_ok_iff.mp read
  obtain ⟨ttl, ttlRead, read⟩ := bind_eq_ok_iff.mp read
  obtain ⟨tmax, tmaxRead, read⟩ := bind_eq_ok_iff.mp read
  obtain ⟨dmax, dmaxRead, read⟩ := bind_eq_ok_iff.mp read
  cases read
  exact ⟨enabledRead, rfl, portRead, stepRead, ttlRead, tmaxRead, dmaxRead⟩

/-- All settings, each from its own key. -/
structure Settings.From (properties : Properties) (settings : Settings) : Prop where
  serverRequestsName : properties.name "metrics.web.server-requests.name" "http_server_requests" =
    .ok settings.serverRequestsName
  clientRequestsName : properties.name "metrics.web.client-requests.name" "http_client_requests" =
    .ok settings.clientRequestsName
  commonTags : settings.commonTags = properties.tags "metrics.common-tags"
  prometheus : settings.prometheus.From properties
  datadog : settings.datadog.From properties
  graphite : settings.graphite.From properties
  ganglia : settings.ganglia.From properties

/-- What loads comes from the keys. -/
theorem Settings.from_of_read {settings : Settings}
    (read : Settings.read properties = .ok settings) : settings.From properties := by
  obtain ⟨prometheus, prometheusRead, read⟩ := bind_eq_ok_iff.mp read
  obtain ⟨datadog, datadogRead, read⟩ := bind_eq_ok_iff.mp read
  obtain ⟨graphite, graphiteRead, read⟩ := bind_eq_ok_iff.mp read
  obtain ⟨ganglia, gangliaRead, read⟩ := bind_eq_ok_iff.mp read
  obtain ⟨serverRequestsName, serverRead, read⟩ := bind_eq_ok_iff.mp read
  obtain ⟨clientRequestsName, clientRead, read⟩ := bind_eq_ok_iff.mp read
  cases read
  exact ⟨serverRead, clientRead, rfl, PrometheusSettings.from_of_read prometheusRead,
    DatadogSettings.from_of_read datadogRead, GraphiteSettings.from_of_read graphiteRead,
    GangliaSettings.from_of_read gangliaRead⟩

/-! ## What loads is sound -/

private theorem step_ne_zero {key : String} {default step : Duration} (positive : default ≠ .zero)
    (read : properties.step key default = .ok step) : step ≠ .zero := by
  unfold Properties.step at read
  split at read
  · cases read
    exact positive
  · split at read
    · cases read
    · split at read
      · cases read
      · rename_i nonzero
        cases read
        exact nonzero

private theorem text_trimmed {key default : String} (trimmed : Text.trimmed default = default) :
    Text.trimmed (properties.text key default) = properties.text key default := by
  unfold Properties.text
  split
  · exact trimmed
  · exact Text.trimmed_trimmed _

/-- A name that is read is there, and has no white space around it. -/
private theorem name_proper {key default name : String} (trimmed : Text.trimmed default = default)
    (read : properties.name key default = .ok name) : name ≠ "" ∧ Text.trimmed name = name := by
  simp only [Properties.name] at read
  split at read
  · cases read
  · rename_i given
    cases read
    exact ⟨by simpa using given, text_trimmed trimmed⟩

theorem nonBlank?_eq_some_iff {key value : String} :
    properties.nonBlank? key = some value ↔
      properties key = some value ∧ Text.isBlankText value = false := by
  simp [Properties.nonBlank?, Option.filter_eq_some_iff]

theorem nonBlank?_eq_none_iff {key : String} :
    properties.nonBlank? key = none ↔
      ∀ value, properties key = some value → Text.isBlankText value = true := by
  simp [Properties.nonBlank?, Option.filter_eq_none_iff]

/-- What holds of all settings that load. -/
structure Settings.Sound (settings : Settings) : Prop where
  datadogStep : settings.datadog.step ≠ .zero
  graphiteStep : settings.graphite.step ≠ .zero
  gangliaStep : settings.ganglia.step ≠ .zero
  batchSize : 1 ≤ settings.datadog.batchSize
  path : settings.prometheus.path.toList.head? = some '/'
  serverRequestsName : settings.serverRequestsName ≠ "" ∧
    Text.trimmed settings.serverRequestsName = settings.serverRequestsName
  clientRequestsName : settings.clientRequestsName ≠ "" ∧
    Text.trimmed settings.clientRequestsName = settings.clientRequestsName
  apiKey : ∀ key ∈ settings.datadog.apiKey, Text.isBlankText key = false

theorem Settings.From.sound {settings : Settings} (loaded : settings.From properties) :
    settings.Sound where
  datadogStep := step_ne_zero (by decide) loaded.datadog.step
  graphiteStep := step_ne_zero (by decide) loaded.graphite.step
  gangliaStep := step_ne_zero (by decide) loaded.ganglia.step
  batchSize := by
    have some := loaded.datadog.some
    rw [UInt64.le_iff_toNat_le]
    rw [ne_eq, ← UInt64.toNat_inj] at some
    exact Nat.one_le_iff_ne_zero.mpr some
  path := loaded.prometheus.slash
  serverRequestsName := name_proper (by decide) loaded.serverRequestsName
  clientRequestsName := name_proper (by decide) loaded.clientRequestsName
  apiKey := fun _ given => (nonBlank?_eq_some_iff.mp (loaded.datadog.apiKey ▸ given)).2

/-! ## Which settings load -/

/-- The first check that fails stands behind checks that pass. -/
private theorem findSome?_fault?_eq_some_iff {checks : List Check} :
    checks.findSome? (·.fault? properties) = some error ↔ ∃ earlier check later value explanation,
      checks = earlier ++ check :: later ∧ (∀ passed ∈ earlier, passed.Passes properties) ∧
        properties check.key = some value ∧ ¬check.form.Accepts value ∧
          check.form.complaint? value = some explanation ∧
            error = .invalidSetting check.key explanation := by
  simp only [List.findSome?_eq_some_iff, Check.fault?_eq_none_iff, Check.fault?_eq_some_iff]
  constructor
  · rintro ⟨earlier, check, later, rfl, ⟨value, explanation, present, said, named⟩, passed⟩
    refine ⟨earlier, check, later, value, explanation, rfl, passed, present, ?_, said, named⟩
    rw [← Form.complaint?_eq_none_iff, said]
    exact nofun
  · rintro ⟨earlier, check, later, value, explanation, rfl, passed, present, -, said, named⟩
    exact ⟨earlier, check, later, rfl, ⟨value, explanation, present, said, named⟩, passed⟩

theorem failure?_eq_none_iff {read : Except Error α} :
    failure? read = none ↔ ∃ a, read = .ok a := by
  cases read <;> simp [failure?]

theorem failure?_eq_some_iff {read : Except Error α} :
    failure? read = some error ↔ read = .error error := by
  cases read <;> simp [failure?]

/-- Whether a check fails is up to the value of its key alone. -/
theorem Check.fault?_congr {check : Check} (agree : others check.key = properties check.key) :
    check.fault? others = check.fault? properties := by
  rw [Check.fault?, Check.fault?, agree]

/-- **Settings load exactly if every value that is there is acceptable, and else the first that is
not is named.** What loads is sound. What is wrong is said of the first key in the order of the checks,
and no later key, nor any other, has a say in it. -/
theorem settings_load_exactly (properties : Properties) :
    ((∃ settings, Settings.read properties = .ok settings) ↔
      ∀ check ∈ Settings.checks, check.Passes properties) ∧
    (∀ settings, Settings.read properties = .ok settings → settings.Sound) ∧
    (∀ error, Settings.read properties = .error error ↔
      ∃ earlier check later value explanation, Settings.checks = earlier ++ check :: later ∧
        (∀ passed ∈ earlier, passed.Passes properties) ∧
        properties check.key = some value ∧ ¬check.form.Accepts value ∧
        check.form.complaint? value = some explanation ∧
        error = .invalidSetting check.key explanation) ∧
    ∀ earlier check later, Settings.checks = earlier ++ check :: later →
      (∀ passed ∈ earlier, passed.Passes properties) → ¬check.Passes properties →
      ∀ others : Properties,
        (∀ known ∈ earlier ++ [check], others known.key = properties known.key) →
        Settings.read others = Settings.read properties := by
  have follows : failure? (Settings.read properties) = _ := Settings.read_follows properties
  refine ⟨?_, fun settings read => (Settings.from_of_read read).sound, fun error => ?_, ?_⟩
  · simp only [← failure?_eq_none_iff, follows, List.findSome?_eq_none_iff,
      Check.fault?_eq_none_iff]
  · rw [← failure?_eq_some_iff, follows, findSome?_fault?_eq_some_iff]
  · intro earlier check later split passed failed others agree
    obtain ⟨error, fault⟩ : ∃ error, check.fault? properties = some error :=
      Option.ne_none_iff_exists'.mp (mt (check.fault?_eq_none_iff properties).mp failed)
    have whole (source : Properties) (clear : ∀ known ∈ earlier, known.fault? source = none)
        (fault : check.fault? source = some error) : Settings.read source = .error error := by
      rw [← failure?_eq_some_iff, Settings.read_follows, split, List.findSome?_append,
        List.findSome?_eq_none_iff.mpr clear, List.findSome?_cons, fault, Option.none_or]
    have clear (known) (member : known ∈ earlier) : known.fault? properties = none :=
      (known.fault?_eq_none_iff properties).mpr (passed known member)
    rw [whole properties clear fault]
    refine whole others (fun known member => ?_) ?_
    · rw [Check.fault?_congr (agree known (List.mem_append_left _ member)), clear known member]
    · rw [Check.fault?_congr (agree check (by simp)), fault]

end Telemetry
