import Telemetry.Export.Exposition
import Telemetry.Proofs.Text.Lines

/-! A reader of the exposition format. It knows nothing of meters: it cuts a page into lines, reads
each line by itself, and puts the samples under the headers above them. Any line that it cannot make
sense of makes it give up the whole page. -/
namespace Telemetry.Exposition

/-- A sample as it stands on its line: the text before the value, that text taken apart into the
metric and its labels, and the value. -/
structure SampleLine where
  series : String
  metric : String
  labels : List (String × String)
  value : String
deriving DecidableEq

/-- What a line says. -/
inductive Line where
  | help (name text : String)
  | type (name : String) (type : FamilyType)
  | sample (sample : SampleLine)
deriving DecidableEq

/-- A family as it stands on a page: a type under a name, maybe a help text, and the samples that
follow. -/
structure Block where
  name : String
  help : Option String
  type : FamilyType
  samples : List SampleLine
deriving DecidableEq

namespace Reader

/-- Whether a label name may hold a character. -/
def isLabelChar (c : Char) : Bool := c.isAlphanum || c = '_'

/-- A label value up to the quote that ends it, with its escapes resolved, and what follows. -/
def unescapeLabel? : List Char → Option (List Char × List Char)
  | [] => none
  | '"' :: rest => some ([], rest)
  | '\\' :: '\\' :: rest => (unescapeLabel? rest).map fun (value, rest) => ('\\' :: value, rest)
  | '\\' :: '"' :: rest => (unescapeLabel? rest).map fun (value, rest) => ('"' :: value, rest)
  | '\\' :: 'n' :: rest => (unescapeLabel? rest).map fun (value, rest) => ('\n' :: value, rest)
  | '\\' :: _ => none
  | c :: rest => (unescapeLabel? rest).map fun (value, rest) => (c :: value, rest)

/-- A help text with its escapes resolved. -/
def unescapeHelp? : List Char → Option (List Char)
  | [] => some []
  | '\\' :: '\\' :: rest => (unescapeHelp? rest).map ('\\' :: ·)
  | '\\' :: 'n' :: rest => (unescapeHelp? rest).map ('\n' :: ·)
  | '\\' :: _ => none
  | c :: rest => (unescapeHelp? rest).map (c :: ·)

/-- One label, and what follows it. -/
def readLabel? (text : List Char) : Option ((String × String) × List Char) :=
  match text.dropWhile isLabelChar with
  | '=' :: '"' :: quoted =>
    (unescapeLabel? quoted).map fun (value, rest) =>
      ((String.ofList (text.takeWhile isLabelChar), String.ofList value), rest)
  | _ => none

private theorem length_unescapeLabel?_le (read : unescapeLabel? text = some (value, rest)) :
    rest.length ≤ text.length := by
  fun_induction unescapeLabel? text generalizing value with
  | case1 => cases read
  | case2 tail =>
    cases read
    simp
  | case6 => cases read
  | case3 tail ih | case4 tail ih | case5 tail ih | case7 c tail _ _ _ _ _ ih =>
    obtain ⟨⟨inner, after⟩, found, same⟩ := Option.map_eq_some_iff.mp read
    cases same
    have := ih found
    simp only [List.length_cons]
    omega

private theorem length_readLabel?_lt (read : readLabel? text = some (label, rest)) :
    rest.length < text.length := by
  unfold readLabel? at read
  split at read
  · rename_i quoted shape
    obtain ⟨⟨value, after⟩, found, same⟩ := Option.map_eq_some_iff.mp read
    cases same
    have inner := length_unescapeLabel?_le found
    have outer := (text.dropWhile_sublist isLabelChar).length_le
    rw [shape] at outer
    simp only [List.length_cons] at outer
    omega
  · cases read

/-- The labels up to the closing brace, with which the text ends. -/
def readLabels? (text : List Char) : Option (List (String × String)) :=
  match _read : readLabel? text with
  | some (label, ['\x7d']) => some [label]
  | some (label, ',' :: rest) => (readLabels? rest).map (label :: ·)
  | _ => none
termination_by text.length
decreasing_by
  have := length_readLabel?_lt _read
  simp only [List.length_cons] at this
  omega

/-- The metric and the labels of a series. -/
def readSeries? (text : List Char) : Option (String × List (String × String)) :=
  let metric := String.ofList (text.takeWhile isNameChar)
  match text.dropWhile isNameChar with
  | [] => some (metric, [])
  | '\x7b' :: labels => (readLabels? labels).map (metric, ·)
  | _ => none

/-- A sample line. The value is what follows the last space, and is not empty. -/
def readSample? (text : List Char) : Option SampleLine :=
  match Text.splitLast? ' ' text with
  | some (series, value) =>
    if value.isEmpty then none
    else (readSeries? series).map fun (metric, labels) =>
      ⟨String.ofList series, metric, labels, String.ofList value⟩
  | none => none

/-- The type that a word stands for. -/
def readType? (word : List Char) : Option FamilyType :=
  [.counter, .gauge, .summary].find? fun type => type.text.toList = word

/-- A line. -/
def readLine? : List Char → Option Line
  | '#' :: ' ' :: 'H' :: 'E' :: 'L' :: 'P' :: ' ' :: rest =>
    (Text.splitOnce? ' ' rest).bind fun (name, text) =>
      (unescapeHelp? text).map fun text => .help (String.ofList name) (String.ofList text)
  | '#' :: ' ' :: 'T' :: 'Y' :: 'P' :: 'E' :: ' ' :: rest =>
    (Text.splitOnce? ' ' rest).bind fun (name, word) =>
      (readType? word).map (.type (String.ofList name))
  | text => (readSample? text).map .sample

/-- The samples at the front of some lines, and the families after them. A help line belongs to the
type line that follows it at once, and has its name. -/
def collect? : List Line → Option (List SampleLine × List Block)
  | [] => some ([], [])
  | .sample sample :: rest => (collect? rest).map fun (samples, blocks) => (sample :: samples, blocks)
  | .type name type :: rest =>
    (collect? rest).map fun (samples, blocks) => ([], ⟨name, none, type, samples⟩ :: blocks)
  | .help name text :: rest =>
    match collect? rest with
    | some ([], block :: blocks) =>
      if block.name = name ∧ block.help = none then
        some ([], { block with help := some text } :: blocks)
      else none
    | _ => none

/-- The families of a page. No sample stands above the first header. -/
def read? (page : String) : Option (List Block) := do
  let lines ← Text.lines? page.toList
  let lines ← lines.mapM readLine?
  match ← collect? lines with
  | ([], blocks) => some blocks
  | _ => none

end Reader
end Telemetry.Exposition
