import Mathlib.Data.List.Nodup
import Telemetry.Proofs.Settings.Loading

/-! What each key is for. Every field of the settings has a key of its own, and what loads has in each
field what the value of that key means, or the default where the key is absent. So a key that changes
changes one field, and a key that belongs to no field changes nothing. -/
namespace Telemetry

attribute [ext] PrometheusSettings DatadogSettings GraphiteSettings GangliaSettings Settings

namespace Settings

/-! ## Fields and their keys -/

/-- The kinds of fields. -/
inductive Kind where
  | flag
  | text
  | secret
  | pause
  | word16
  | word32
  | word64
  | tags

/-- What a field of a kind holds. -/
def Kind.Content : Kind → Type
  | flag => Bool
  | text => String
  | secret => Option String
  | pause => Duration
  | word16 => UInt16
  | word32 => UInt32
  | word64 => UInt64
  | tags => Tags

/-- What a value means to a field of a kind. White space around it never counts, but a secret that is
not blank is taken as it stands. -/
def Kind.Means : (kind : Kind) → String → kind.Content → Prop
  | flag, value, content => WritesFlag value content
  | text, value, content => content = Text.trimmed value
  | secret, value, content => content = if Text.isBlankText value then none else some value
  | pause, value, content => WritesDuration value content
  | word16, value, content => WritesNumber (Text.trim value.toList) (UInt16.toNat content)
  | word32, value, content => WritesNumber (Text.trim value.toList) (UInt32.toNat content)
  | word64, value, content => WritesNumber (Text.trim value.toList) (UInt64.toNat content)
  | tags, value, content => content = Tags.read value

/-- The fields of settings. -/
inductive Field where
  | serverRequestsName
  | clientRequestsName
  | commonTags
  | prometheusEnabled
  | prometheusPath
  | prometheusDescriptions
  | datadogEnabled
  | datadogApiKey
  | datadogUri
  | datadogHostTag
  | datadogStep
  | datadogBatchSize
  | graphiteEnabled
  | graphiteHost
  | graphitePort
  | graphiteStep
  | gangliaEnabled
  | gangliaHost
  | gangliaPort
  | gangliaStep
  | gangliaTtl
  | gangliaTmax
  | gangliaDmax
deriving DecidableEq

namespace Field

/-- The key of a field. -/
def key : Field → String
  | serverRequestsName => "metrics.web.server-requests.name"
  | clientRequestsName => "metrics.web.client-requests.name"
  | commonTags => "metrics.common-tags"
  | prometheusEnabled => "prometheus.enabled"
  | prometheusPath => "prometheus.path"
  | prometheusDescriptions => "prometheus.descriptions"
  | datadogEnabled => "datadog.enabled"
  | datadogApiKey => "datadog.api-key"
  | datadogUri => "datadog.uri"
  | datadogHostTag => "datadog.host-tag"
  | datadogStep => "datadog.step"
  | datadogBatchSize => "datadog.batch-size"
  | graphiteEnabled => "graphite.enabled"
  | graphiteHost => "graphite.host"
  | graphitePort => "graphite.port"
  | graphiteStep => "graphite.step"
  | gangliaEnabled => "ganglia.enabled"
  | gangliaHost => "ganglia.host"
  | gangliaPort => "ganglia.port"
  | gangliaStep => "ganglia.step"
  | gangliaTtl => "ganglia.ttl"
  | gangliaTmax => "ganglia.tmax"
  | gangliaDmax => "ganglia.dmax"

/-- All fields. -/
def all : List Field := [
  serverRequestsName, clientRequestsName, commonTags,
  prometheusEnabled, prometheusPath, prometheusDescriptions,
  datadogEnabled, datadogApiKey, datadogUri, datadogHostTag, datadogStep, datadogBatchSize,
  graphiteEnabled, graphiteHost, graphitePort, graphiteStep,
  gangliaEnabled, gangliaHost, gangliaPort, gangliaStep, gangliaTtl, gangliaTmax, gangliaDmax]

private theorem mem_all (field : Field) : field ∈ all := by
  cases field <;> decide

/-- No two fields have the same variable in the environment, let alone the same key. -/
theorem eq_of_variableName {field other : Field}
    (same : variableName field.key = variableName other.key) : field = other :=
  List.inj_on_of_nodup_map (f := fun field : Field => variableName field.key)
    (by decide +kernel) field.mem_all other.mem_all same

/-- The kind of a field. -/
def kind : Field → Kind
  | prometheusEnabled | prometheusDescriptions => .flag
  | datadogEnabled | graphiteEnabled | gangliaEnabled => .flag
  | serverRequestsName | clientRequestsName | prometheusPath => .text
  | datadogUri | datadogHostTag | graphiteHost | gangliaHost => .text
  | datadogApiKey => .secret
  | datadogStep | graphiteStep | gangliaStep => .pause
  | graphitePort | gangliaPort => .word16
  | gangliaTtl | gangliaTmax | gangliaDmax => .word32
  | datadogBatchSize => .word64
  | commonTags => .tags

end Field

/-- What is in a field. -/
def get (settings : Settings) : (field : Field) → field.kind.Content
  | .serverRequestsName => settings.serverRequestsName
  | .clientRequestsName => settings.clientRequestsName
  | .commonTags => settings.commonTags
  | .prometheusEnabled => settings.prometheus.enabled
  | .prometheusPath => settings.prometheus.path
  | .prometheusDescriptions => settings.prometheus.descriptions
  | .datadogEnabled => settings.datadog.enabled
  | .datadogApiKey => settings.datadog.apiKey
  | .datadogUri => settings.datadog.uri
  | .datadogHostTag => settings.datadog.hostTag
  | .datadogStep => settings.datadog.step
  | .datadogBatchSize => settings.datadog.batchSize
  | .graphiteEnabled => settings.graphite.enabled
  | .graphiteHost => settings.graphite.host
  | .graphitePort => settings.graphite.port
  | .graphiteStep => settings.graphite.step
  | .gangliaEnabled => settings.ganglia.enabled
  | .gangliaHost => settings.ganglia.host
  | .gangliaPort => settings.ganglia.port
  | .gangliaStep => settings.ganglia.step
  | .gangliaTtl => settings.ganglia.ttl
  | .gangliaTmax => settings.ganglia.tmax
  | .gangliaDmax => settings.ganglia.dmax

/-- Settings are what is in their fields. -/
theorem ext_get {settings changed : Settings}
    (same : ∀ field, changed.get field = settings.get field) : changed = settings := by
  have prometheus : changed.prometheus = settings.prometheus :=
    PrometheusSettings.ext (same .prometheusEnabled) (same .prometheusPath)
      (same .prometheusDescriptions)
  have datadog : changed.datadog = settings.datadog :=
    DatadogSettings.ext (same .datadogEnabled) (same .datadogApiKey) (same .datadogUri)
      (same .datadogHostTag) (same .datadogStep) (same .datadogBatchSize)
  have graphite : changed.graphite = settings.graphite :=
    GraphiteSettings.ext (same .graphiteEnabled) (same .graphiteHost) (same .graphitePort)
      (same .graphiteStep)
  have ganglia : changed.ganglia = settings.ganglia :=
    GangliaSettings.ext (same .gangliaEnabled) (same .gangliaHost) (same .gangliaPort)
      (same .gangliaStep) (same .gangliaTtl) (same .gangliaTmax) (same .gangliaDmax)
  exact Settings.ext (same .serverRequestsName) (same .clientRequestsName) (same .commonTags)
    prometheus datadog graphite ganglia

/-- Every key that is checked belongs to a field. -/
theorem exists_key_eq : ∀ check ∈ checks, ∃ field ∈ Field.all, field.key = check.key := by
  decide +kernel

end Settings

/-! ## What a field is drawn from -/

/-- What is drawn from a value that may be absent: the default if it is, and else the one thing that
the value means. -/
structure Drawn {γ : Type} (means : String → γ → Prop) (default : γ) (value? : Option String)
    (content : γ) : Prop where
  absent : value? = none → content = default
  present : ∀ value, value? = some value → ∀ other, means value other ↔ other = content

variable {γ : Type} {means : String → γ → Prop} {default content other : γ} {value? : Option String}
  {properties others : Properties} {key : String}

/-- Only one thing is drawn from a value. -/
theorem Drawn.unique (one : Drawn means default value? content)
    (another : Drawn means default value? other) : other = content := by
  cases value? with
  | none => rw [one.absent rfl, another.absent rfl]
  | some value =>
    have meant : means value other := (another.present value rfl other).mpr rfl
    exact (one.present value rfl other).mp meant

/-- What is read exactly if it is meant is drawn. -/
theorem drawn_of_read? (read? : String → Option γ) (absent : value? = none → content = default)
    (correct : ∀ value other, read? value = some other ↔ means value other)
    (present : ∀ value, value? = some value → read? value = some content) :
    Drawn means default value? content where
  absent
  present value given other := by
    rw [← correct, present value given, Option.some.injEq, eq_comm]

private theorem flag_drawn {default flag : Bool} (read : properties.flag key default = .ok flag) :
    Drawn WritesFlag default (properties key) flag := by
  refine drawn_of_read? readFlag? (fun absent => ?_)
    (fun _ _ => readFlag?_eq_some_iff) fun value present => ?_
  · rw [Properties.flag, absent] at read
    exact (Except.ok.inj read).symm
  · simp only [Properties.flag, present] at read
    split at read
    · rename_i meant
      rw [← Except.ok.inj read]
      exact meant
    · cases read

private theorem step_drawn {default step : Duration} (read : properties.step key default = .ok step) :
    Drawn WritesDuration default (properties key) step := by
  refine drawn_of_read? Duration.read? (fun absent => ?_)
    (fun _ _ => Duration.read?_eq_some_iff) fun value present => ?_
  · rw [Properties.step, absent] at read
    exact (Except.ok.inj read).symm
  · simp only [Properties.step, present] at read
    split at read
    · cases read
    · rename_i meant
      split at read
      · cases read
      · rw [← Except.ok.inj read]
        exact meant

private theorem text_drawn {default text : String} (read : text = properties.text key default) :
    Drawn (Settings.Kind.Means .text) default (properties key) text where
  absent absent := by rw [read, Properties.text, absent]
  present value present other := by rw [read, Properties.text, present]; rfl

private theorem name_drawn {default name : String} (read : properties.name key default = .ok name) :
    Drawn (Settings.Kind.Means .text) default (properties key) name := by
  simp only [Properties.name] at read
  split at read
  · cases read
  · exact text_drawn (Except.ok.inj read).symm

private theorem nonBlank?_drawn {secret : Option String} (read : secret = properties.nonBlank? key) :
    Drawn (Settings.Kind.Means .secret) none (properties key) secret where
  absent absent := by rw [read, Properties.nonBlank?, absent]; rfl
  present value present other := by
    have kept : secret = if Text.isBlankText value then none else some value := by
      rw [read, Properties.nonBlank?, present]
      cases blank : Text.isBlankText value <;> simp [Option.filter, blank]
    rw [kept]
    rfl

private theorem tags_drawn {tags : Tags} (read : tags = properties.tags key) :
    Drawn (Settings.Kind.Means .tags) .empty (properties key) tags where
  absent absent := by rw [read, Properties.tags, absent]
  present value present other := by rw [read, Properties.tags, present]; rfl

private theorem number_drawn {bound default n : Nat}
    (read : properties.number key bound default = .ok n) :
    Drawn (fun value n => WritesNumber (Text.trim value.toList) n ∧ n < bound) default
      (properties key) n := by
  refine drawn_of_read? (fun value => readNumber? bound (Text.trim value.toList))
    (fun absent => ?_) (fun _ _ => readNumber?_eq_some_iff) fun value present => ?_
  · rw [Properties.number, absent] at read
    exact (Except.ok.inj read).symm
  · simp only [Properties.number, present] at read
    split at read
    · rename_i meant
      rw [← Except.ok.inj read]
      exact meant
    · cases read

/-- A word is drawn as its number is, if every number below the bound is that of a word, and of one
only. -/
theorem word_drawn {word : Type} {ofNat : Nat → word} {toNat : word → Nat} {bound : Nat}
    {default content : word} (ofNat_toNat : ∀ w, ofNat (toNat w) = w) (small : ∀ w, toNat w < bound)
    (toNat_ofNat : ∀ n, n < bound → toNat (ofNat n) = n)
    (read : (properties.number key bound (toNat default)).map ofNat = .ok content) :
    Drawn (fun value word => WritesNumber (Text.trim value.toList) (toNat word)) default
      (properties key) content := by
  cases number : properties.number key bound (toNat default) with
  | error error =>
    rw [number] at read
    cases read
  | ok n =>
    have same : ofNat n = content := by
      rw [number] at read
      exact Except.ok.inj read
    have drawn := number_drawn number
    refine ⟨fun absent => ?_, fun value present other => ?_⟩
    · rw [← same, drawn.absent absent, ofNat_toNat]
    · constructor
      · intro writes
        rw [← same, ← (drawn.present value present _).mp ⟨writes, small other⟩, ofNat_toNat]
      · rintro rfl
        obtain ⟨writes, bounded⟩ := (drawn.present value present n).mpr rfl
        rwa [← same, toNat_ofNat n bounded]

private theorem word16_drawn {default word : UInt16}
    (read : properties.word16 key default = .ok word) :
    Drawn (Settings.Kind.Means .word16) default (properties key) word :=
  word_drawn (fun _ => UInt16.ofNat_toNat) UInt16.toNat_lt (fun _ => UInt16.toNat_ofNat_of_lt') read

private theorem word32_drawn {default word : UInt32}
    (read : properties.word32 key default = .ok word) :
    Drawn (Settings.Kind.Means .word32) default (properties key) word :=
  word_drawn (fun _ => UInt32.ofNat_toNat) UInt32.toNat_lt (fun _ => UInt32.toNat_ofNat_of_lt') read

private theorem word64_drawn {default word : UInt64}
    (read : properties.word64 key default = .ok word) :
    Drawn (Settings.Kind.Means .word64) default (properties key) word :=
  word_drawn (fun _ => UInt64.ofNat_toNat) UInt64.toNat_lt (fun _ => UInt64.toNat_ofNat_of_lt') read

namespace Settings
variable {settings changed : Settings}

/-- A field is drawn from its key: the default of the field if the key is absent. -/
abbrev DrawnAt (settings : Settings) (properties : Properties) (field : Field) : Prop :=
  Drawn field.kind.Means (({} : Settings).get field) (properties field.key) (settings.get field)

/-- Of settings that load, each field is drawn from its own key. -/
theorem From.drawnAt (loaded : settings.From properties) :
    ∀ field, settings.DrawnAt properties field
  | .serverRequestsName => name_drawn loaded.serverRequestsName
  | .clientRequestsName => name_drawn loaded.clientRequestsName
  | .commonTags => tags_drawn loaded.commonTags
  | .prometheusEnabled => flag_drawn loaded.prometheus.enabled
  | .prometheusPath => text_drawn loaded.prometheus.path
  | .prometheusDescriptions => flag_drawn loaded.prometheus.descriptions
  | .datadogEnabled => flag_drawn loaded.datadog.enabled
  | .datadogApiKey => nonBlank?_drawn loaded.datadog.apiKey
  | .datadogUri => text_drawn loaded.datadog.uri
  | .datadogHostTag => text_drawn loaded.datadog.hostTag
  | .datadogStep => step_drawn loaded.datadog.step
  | .datadogBatchSize => word64_drawn loaded.datadog.batchSize
  | .graphiteEnabled => flag_drawn loaded.graphite.enabled
  | .graphiteHost => text_drawn loaded.graphite.host
  | .graphitePort => word16_drawn loaded.graphite.port
  | .graphiteStep => step_drawn loaded.graphite.step
  | .gangliaEnabled => flag_drawn loaded.ganglia.enabled
  | .gangliaHost => text_drawn loaded.ganglia.host
  | .gangliaPort => word16_drawn loaded.ganglia.port
  | .gangliaStep => step_drawn loaded.ganglia.step
  | .gangliaTtl => word32_drawn loaded.ganglia.ttl
  | .gangliaTmax => word32_drawn loaded.ganglia.tmax
  | .gangliaDmax => word32_drawn loaded.ganglia.dmax

/-- Where two sources agree on the key of a field, what loads from them agrees in the field. -/
theorem get_eq_of_key_eq {field : Field} (read : Settings.read properties = .ok settings)
    (readToo : Settings.read others = .ok changed)
    (agree : others field.key = properties field.key) : changed.get field = settings.get field := by
  have drawn := (from_of_read readToo).drawnAt field
  rw [DrawnAt, agree] at drawn
  exact ((from_of_read read).drawnAt field).unique drawn

/-- What is wrong is up to the keys of the fields. -/
theorem failure?_read_congr (agree : ∀ field : Field, others field.key = properties field.key) :
    failure? (Settings.read others) = failure? (Settings.read properties) := by
  rw [read_follows, read_follows, ← List.head?_filterMap, ← List.head?_filterMap]
  refine congrArg List.head? (List.filterMap_congr fun check member => ?_)
  obtain ⟨field, -, named⟩ := exists_key_eq check member
  exact Check.fault?_congr (named ▸ agree field)

/-- What loads, or what is wrong, is up to the keys of the fields. -/
theorem read_congr (agree : ∀ field : Field, others field.key = properties field.key) :
    Settings.read others = Settings.read properties := by
  have failures := failure?_read_congr agree
  cases read : Settings.read properties with
  | error error =>
    rw [failure?_eq_some_iff.mpr read] at failures
    exact failure?_eq_some_iff.mp failures
  | ok settings =>
    rw [read] at failures
    obtain ⟨changed, readToo⟩ := failure?_eq_none_iff.mp failures
    rw [readToo, ext_get fun field => get_eq_of_key_eq read readToo (agree field)]

end Settings

open Settings (Field) in
/-- **Each key drives its own field and nothing else.** In settings that load, each field has what the
value of its key means, which is one thing only, or its default if the key is absent. So if two sources
agree on all keys of fields but one, and settings load from both, then these agree in all fields but the
one of that key. Settings consist of their fields, no two of which have a key or a variable of the
environment in common, and a source that differs only in keys of no field loads the same, or fails in
the same way. -/
theorem each_key_drives_its_own_field :
    (∀ properties settings, Settings.read properties = .ok settings → ∀ field : Field,
      (properties field.key = none → settings.get field = ({} : Settings).get field) ∧
      ∀ value, properties field.key = some value → ∀ content,
        field.kind.Means value content ↔ content = settings.get field) ∧
    (∀ (field : Field) properties others settings changed,
      (∀ other : Field, other ≠ field → others other.key = properties other.key) →
      Settings.read properties = .ok settings → Settings.read others = .ok changed →
      ∀ other, other ≠ field → changed.get other = settings.get other) ∧
    (∀ settings changed : Settings,
      (∀ field, changed.get field = settings.get field) → changed = settings) ∧
    (∀ field other : Field, variableName field.key = variableName other.key → field = other) ∧
    ∀ properties others : Properties,
      (∀ field : Field, others field.key = properties field.key) →
      Settings.read others = Settings.read properties := by
  refine ⟨fun properties settings read field => ?_, ?_, fun _ _ => Settings.ext_get,
    fun _ _ => Field.eq_of_variableName, fun _ _ => Settings.read_congr⟩
  · have drawn := (Settings.from_of_read read).drawnAt field
    exact ⟨drawn.absent, drawn.present⟩
  · intro field properties others settings changed agree read readToo other apart
    exact Settings.get_eq_of_key_eq read readToo (agree other apart)

open Settings (Field) in
/-- Two ports: a source that gives the one changes that one and not the other, and what it says beside
the keys is not looked at. -/
theorem one_port_leaves_the_other :
    let before : Properties := fun key => if key = "ganglia.port" then some "9000" else none
    let after : Properties := fun key => if key = "graphite.port" then some " +2103 " else before key
    let noted : Properties := fun key => if key = "graphite.prot" then some "lots" else after key
    ∃ settings changed, Settings.read before = .ok settings ∧ Settings.read after = .ok changed ∧
      changed.graphite.port = 2103 ∧ changed.ganglia.port = 9000 ∧
      (∀ field, field ≠ Field.graphitePort → changed.get field = settings.get field) ∧
      Settings.read noted = .ok changed := by
  intro before after noted
  obtain ⟨drawn, framed, -, -, unkeyed⟩ := each_key_drives_its_own_field
  have read : Settings.read before = .ok { ganglia := { port := 9000 } } := by
    decide +kernel +zetaReduce
  obtain ⟨changed, readToo⟩ : ∃ changed, Settings.read after = .ok changed :=
    failure?_eq_none_iff.mp (by decide +kernel +zetaReduce)
  have agree : ∀ field : Field, field ≠ .graphitePort → after field.key = before field.key := by
    intro field apart
    refine if_neg fun same => apart ?_
    exact Field.eq_of_variableName (congrArg variableName same)
  have others := framed .graphitePort before after _ changed agree read readToo
  have port : (2103 : UInt16) = changed.graphite.port := by
    refine ((drawn after changed readToo .graphitePort).2 " +2103 " rfl (2103 : UInt16)).mp ?_
    have digits : ∀ c ∈ "2103".toList, c.isDigit = true := List.all_eq_true.mp (by decide)
    exact ⟨['+'], "2103".toList, by decide, .inr rfl, by decide, digits, by decide⟩
  have same : Settings.read noted = Settings.read after :=
    unkeyed after noted fun field => if_neg (by cases field <;> decide)
  exact ⟨_, changed, read, readToo, port.symm, others .gangliaPort nofun, others,
    same.trans readToo⟩

end Telemetry
