import Telemetry.Reading
/-!
The exposition format: families of samples in ascending order of their names, each with its type.
The samples of a meter are exposed all together or not at all, so that no family gets two types
and no series two values; and a family whose name a summary uses for its sum or count gives way. The
warnings about what is not exposed go to the log, which is left out.
-/
namespace Telemetry.Exposition

/-- The type of a family. -/
inductive FamilyType where
  | counter
  | gauge
  | summary
deriving DecidableEq, Repr

/-- The word for a type. -/
def FamilyType.text : FamilyType → String
  | counter => "counter"
  | gauge => "gauge"
  | summary => "summary"

/-- Whether a metric name may hold a character. -/
def isNameChar (c : Char) : Bool := c.isAlphanum || c = '_' || c = ':'

/-- A text as a metric name (`sanitize_name`): other characters become `_`, and a digit in front
gets one before it. -/
def metricName (text : String) : String :=
  let chars := text.toList.map fun c => if isNameChar c then c else '_'
  String.ofList (if chars.head?.any Char.isDigit then '_' :: chars else chars)

/-- A text as a label name, which holds no colon (`sanitize_label`). -/
def labelName (text : String) : String :=
  String.ofList ((metricName text).toList.map fun c => if c = ':' then '_' else c)

/-- One character of a label value. -/
def escapeLabelChar (c : Char) : List Char :=
  match c with
  | '\\' => ['\\', '\\']
  | '"' => ['\\', '"']
  | '\n' => ['\\', 'n']
  | c => [c]

/-- A label value between its quotes (`escape_label_value`). -/
def escapeLabel (value : String) : String := String.ofList (value.toList.flatMap escapeLabelChar)

/-- One character of a help text. -/
def escapeHelpChar (c : Char) : List Char :=
  match c with
  | '\\' => ['\\', '\\']
  | '\n' => ['\\', 'n']
  | c => [c]

/-- A help text on its line (`escape_help`). -/
def escapeHelp (help : String) : String := String.ofList (help.toList.flatMap escapeHelpChar)

/-- The text of a value (`format_value`). -/
def valueText (value : Binary64) : String := Decimal.signedInfinity.write value

/-- One value of a family. -/
structure Sample where
  family : String
  type : FamilyType
  metric : String
  labels : List (String × String)
  value : String
deriving DecidableEq

/-- One label. -/
def labelText (label : String × String) : String := label.1 ++ "=\"" ++ escapeLabel label.2 ++ "\""

/-- What stands before the value (`series`): the metric, and the labels in braces if there are
any. -/
def Sample.series (sample : Sample) : String :=
  if sample.labels.isEmpty then sample.metric
  else sample.metric ++ "\x7b" ++ ",".intercalate (sample.labels.map labelText) ++ "\x7d"

/-- The line of a sample. -/
def Sample.line (sample : Sample) : String := sample.series ++ " " ++ sample.value ++ "\n"

/-- The labels of a tag set (`labels`). -/
def labels (tags : Tags) : List (String × String) :=
  tags.entries.map fun (key, value) => (labelName key, value)

/-- The samples of one meter. -/
def samples (reading : Reading) : List Sample :=
  let name := metricName reading.id.name
  let labels := labels reading.id.tags
  match reading.value with
  | .counter count => [⟨name, .counter, name, labels, toString count⟩]
  | .gauge value => [⟨name, .gauge, name, labels, valueText value⟩]
  | .timer count total max quantiles =>
    quantiles.map (fun (q, value) =>
      ⟨name, .summary, name, labels ++ [("quantile", valueText q)], valueText value.seconds⟩) ++
    [⟨name, .summary, name ++ "_sum", labels, valueText total.seconds⟩,
     ⟨name, .summary, name ++ "_count", labels, toString count⟩,
     ⟨name ++ "_max", .gauge, name ++ "_max", labels, valueText max.seconds⟩]
  | .longTaskTimer active duration =>
    [⟨name ++ "_active_count", .gauge, name ++ "_active_count", labels, toString active⟩,
     ⟨name ++ "_duration_sum", .gauge, name ++ "_duration_sum", labels, valueText duration.seconds⟩]

/-- The samples that share a name and a type. -/
structure Family where
  type : FamilyType
  help : String
  samples : List Sample
deriving DecidableEq

/-- Families by name. -/
abbrev Families := OrderedMap String Family

namespace Families

/-- Whether a sample fits: its family has no other type, and its series is not there yet. -/
def admits (families : Families) (sample : Sample) : Bool :=
  match families.get? sample.family with
  | none => true
  | some family =>
    family.type = sample.type && !family.samples.any fun other => other.series = sample.series

/-- Puts a sample at the end of its family. -/
def addSample (help : String) (families : Families) (sample : Sample) : Families :=
  let family := (families.get? sample.family).getD ⟨sample.type, help, []⟩
  families.insert sample.family { family with samples := family.samples ++ [sample] }

/-- Exposes a meter, unless one of its samples does not fit (`Families::add`). -/
def add (families : Families) (reading : Reading) : Families :=
  let samples := samples reading
  if samples.all families.admits then samples.foldl (addSample reading.id.name) families
  else families

/-- The families of a snapshot, the meters being taken in their order. -/
def ofSnapshot (snapshot : Snapshot) : Families := snapshot.foldl add .empty

/-- The names of the summaries, ascending. -/
def summaries (families : Families) : List String :=
  (families.entries.filter fun entry => entry.2.type = .summary).map (·.1)

/-- Leaves out the families that a summary of the given name writes lines under. -/
def withoutClashes (families : Families) (summary : String) : Families :=
  (families.erase (summary ++ "_sum")).erase (summary ++ "_count")

/-- Leaves out every family whose name some summary uses for its sum or count
(`Families::remove_summary_clashes`). -/
def withoutSummaryClashes (families : Families) : Families :=
  families.summaries.foldl withoutClashes families

/-- The lines above the samples of a family. -/
def header (descriptions : Bool) (name : String) (family : Family) : String :=
  (if descriptions then "# HELP " ++ name ++ " " ++ escapeHelp family.help ++ "\n" else "") ++
    "# TYPE " ++ name ++ " " ++ family.type.text ++ "\n"

/-- The text of some families. -/
def text (families : Families) (descriptions : Bool) : String :=
  String.join (families.entries.map fun (name, family) =>
    header descriptions name family ++ String.join (family.samples.map Sample.line))

end Families

/-- A snapshot in the exposition format, with or without help lines (`render`). -/
def render (snapshot : Snapshot) (descriptions : Bool) : String :=
  (Families.ofSnapshot snapshot).withoutSummaryClashes.text descriptions

/-- The media type of the format. -/
def contentType : String := "text/plain; version=0.0.4; charset=utf-8"

end Telemetry.Exposition
