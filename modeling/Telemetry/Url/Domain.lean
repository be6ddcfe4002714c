import Telemetry.Text.Composition
import Telemetry.Text.Direction
import Telemetry.Text.Joining
import Telemetry.Text.Split
import Telemetry.Url.DomainForm
import Telemetry.Url.Punycode
/-!
Domains in ASCII. A domain is brought into its usual form and cut into labels at its dots; a label with
characters beyond ASCII is written as a description of them.
-/
namespace Telemetry.Url

open Text

/-- The characters of ASCII that no domain has. -/
def forbiddenInDomain (c : Char) : Bool :=
  c.toNat ≤ 0x20 || c.toNat = 0x7f ||
    ['#', '%', '/', ':', '<', '>', '?', '@', '[', '\\', ']', '^', '|'].contains c

/-- Whether a text has characters of ASCII only. -/
def isAscii (text : List Char) : Bool := text.all (·.toNat < 0x80)

/-- The mark in front of a label that describes another one. -/
def descriptionMark : List Char := ['x', 'n', '-', '-']

/-- The most characters that a label beyond ASCII has. -/
def longestLabel : Nat := 1000

/-- The most characters that the description of a label has. -/
def longestDescription : Nat := 2000

/-- The characters that say how letters beside them join: one that keeps them apart and one that
joins them. -/
def isJoiner (c : Char) : Bool := c.toNat = 0x200c || c.toNat = 0x200d

/-- Whether a joiner has a meaning between what comes before it, given from its end, and what comes
after it. Behind the sign that takes the vowel from a letter it has; and letters can be kept apart
where they would join. -/
def joinerHasMeaning (joiner : Char) (before after : List Char) : Bool :=
  before.head?.any (markClass · = 9) ||
    (joiner.toNat = 0x200c && (before.find? (!isTransparent ·)).any joinsAfter &&
      (after.find? (!isTransparent ·)).any joinsBefore)

/-- Whether all joiners of a text have a meaning behind what comes before it, given from its end. -/
def joinersHaveMeaning (before : List Char) : List Char → Bool
  | [] => true
  | c :: rest =>
    (!isJoiner c || joinerHasMeaning c before rest) && joinersHaveMeaning (c :: before) rest

/-- Whether a label with characters beyond ASCII is written as labels are. -/
def isLabel (label : List Char) : Bool :=
  !label.head?.any isMark && joinersHaveMeaning [] label && label.length ≤ longestLabel

/-- The label that is described behind the mark of descriptions. It needs the description, and has its
usual form. -/
def describedLabel? (description : List Char) : Option (List Char) :=
  if description.getLast?.all (· = '-') || longestDescription < description.length ||
      !isAscii description then none
  else do
    let label ← Punycode.decode? description
    if isLabel label && composed label = label && label.all (fun c => domainForm? c = some [c])
    then some label else none

/-- A label as it reads and as it is written in ASCII. -/
structure Label where
  shown : List Char
  ascii : List Char

/-- The label of a text in its usual form. -/
def label? (text : List Char) : Option Label :=
  if descriptionMark.isPrefixOf text then
    (describedLabel? (text.drop descriptionMark.length)).map fun shown => ⟨shown, text⟩
  else if isAscii text then some ⟨text, text⟩
  else if isLabel text then some ⟨text, descriptionMark ++ Punycode.encode text⟩
  else none

/-- Whether a text is written from right to left somewhere. -/
def hasRightToLeft (text : List Char) : Bool :=
  text.any fun c => direction c = .rightToLeft || direction c = .arabicNumber

/-- Whether a label reads the same beside labels of another direction: it begins with a letter, ends
in a letter or a digit, and is written in one direction. -/
def keepsDirection (label : List Char) : Bool :=
  match label.map direction with
  | [] => true
  | first :: rest =>
    let inner := (rest.reverse.dropWhile (· = .mark)).reverse
    let last := inner.getLast?
    match first with
    | .leftToRight =>
      inner.all (· ∈ [.leftToRight, .europeanNumber, .neutral, .mark]) &&
        last.all (· ∈ [.leftToRight, .europeanNumber])
    | .rightToLeft =>
      inner.all (· ≠ .leftToRight) &&
        last.all (· ∈ [.rightToLeft, .europeanNumber, .arabicNumber]) &&
        !(inner.contains .europeanNumber && inner.contains .arabicNumber)
    | _ => false

/-- The usual form of a domain. -/
def domainText? (domain : List Char) : Option (List Char) :=
  (domain.mapM domainForm?).map fun forms => composed forms.flatten

/-- A domain in ASCII. -/
def asciiDomain? (domain : List Char) : Option (List Char) := do
  let text ← domainText? domain
  let labels ← (splitOn '.' text).mapM label?
  let ascii := List.intercalate ['.'] (labels.map (·.ascii))
  let mixed := labels.any (hasRightToLeft ·.shown) && !labels.all (keepsDirection ·.shown)
  if mixed || ascii.any forbiddenInDomain then none else some ascii

end Telemetry.Url
