import Telemetry.Text.Age
import Telemetry.Text.Blank
import Telemetry.Text.Break
import Telemetry.Text.ScriptExtension
/-!
The named properties of characters that patterns can ask for: general categories and their groups,
scripts, the parts that characters play in the breaking of text, the version that added them, and
what a character has or lacks.
-/
namespace Telemetry.Pattern

open Text (CodePoints)
open Text.Property

/-- A property's name without what does not count in it: case, spaces, hyphens, underscores, and
`is` in front. -/
def propertyKey (name : List Char) : String :=
  let plain (name : List Char) :=
    (name.filter fun c => c ≠ ' ' && c ≠ '_' && c ≠ '-' && c.toNat < 0x80).map Char.toLower
  String.ofList <| match name with
    | i :: s :: rest =>
      if i.toLower = 'i' && s.toLower = 's' then
        if plain rest = ['c'] then ['i', 's', 'c'] else plain rest
      else plain name
    | _ => plain name

/-- The names of the general categories and of their groups. -/
def categoryNames : List (List String × List Text.Category) :=
  [(["lu", "uppercaseletter"], [.lu]), (["ll", "lowercaseletter"], [.ll]),
   (["lt", "titlecaseletter"], [.lt]), (["lc", "casedletter"], [.lu, .ll, .lt]),
   (["lm", "modifierletter"], [.lm]), (["lo", "otherletter"], [.lo]),
   (["l", "letter"], [.lu, .ll, .lt, .lm, .lo]),
   (["mn", "nonspacingmark"], [.mn]), (["mc", "spacingmark"], [.mc]),
   (["me", "enclosingmark"], [.me]), (["m", "mark", "combiningmark"], [.mn, .mc, .me]),
   (["nd", "decimalnumber", "digit"], [.nd]), (["nl", "letternumber"], [.nl]),
   (["no", "othernumber"], [.no]), (["n", "number"], [.nd, .nl, .no]),
   (["pc", "connectorpunctuation"], [.pc]), (["pd", "dashpunctuation"], [.pd]),
   (["ps", "openpunctuation"], [.ps]), (["pe", "closepunctuation"], [.pe]),
   (["pi", "initialpunctuation"], [.pi]), (["pf", "finalpunctuation"], [.pf]),
   (["po", "otherpunctuation"], [.po]),
   (["p", "punctuation", "punct"], [.pc, .pd, .ps, .pe, .pi, .pf, .po]),
   (["sm", "mathsymbol"], [.sm]), (["sc", "currencysymbol"], [.sc]),
   (["sk", "modifiersymbol"], [.sk]), (["so", "othersymbol"], [.so]),
   (["s", "symbol"], [.sm, .sc, .sk, .so]),
   (["zs", "spaceseparator"], [.zs]), (["zl", "lineseparator"], [.zl]),
   (["zp", "paragraphseparator"], [.zp]), (["z", "separator"], [.zs, .zl, .zp]),
   (["cc", "control", "cntrl"], [.cc]), (["cf", "format"], [.cf]),
   (["co", "privateuse"], [.co]), (["cn", "unassigned"], [.cn]),
   (["c", "other"], [.cc, .cf, .cs, .co, .cn])]

/-- The value of a key in a table whose entries have several keys. -/
def find? {α : Type} (table : List (List String × α)) (key : String) : Option α :=
  (table.find? (·.1.contains key)).map (·.2)

/-- The general category, or group of them, of a key. Surrogates are no characters, and so there is
no category of them. -/
def category? (key : String) : Option CodePoints :=
  match key with
  | "any" => some .everything
  | "ascii" => some [(0, 0x7f)]
  | "assigned" => some (Text.charactersOf [.cn]).complement
  | _ => (find? categoryNames key).map Text.charactersOf

/-- What a character has or lacks, by the names of the properties. -/
def plainProperties : List (List String × CodePoints) :=
  [(["ahex", "asciihexdigit"], asciiHexDigits), (["alpha", "alphabetic"], alphabetic),
   (["bidic", "bidicontrol"], bidiControls), (["bidim", "bidimirrored"], bidiMirrored),
   (["ci", "caseignorable"], caseIgnorable), (["cased"], cased),
   (["cwcf", "changeswhencasefolded"], changesWhenCasefolded),
   (["cwcm", "changeswhencasemapped"], changesWhenCasemapped),
   (["cwl", "changeswhenlowercased"], changesWhenLowercased),
   (["cwt", "changeswhentitlecased"], changesWhenTitlecased),
   (["cwu", "changeswhenuppercased"], changesWhenUppercased),
   (["dash"], dash), (["di", "defaultignorablecodepoint"], defaultIgnorable),
   (["dep", "deprecated"], deprecated), (["dia", "diacritic"], diacritics),
   (["emoji"], emoji), (["ecomp", "emojicomponent"], emojiComponents),
   (["emod", "emojimodifier"], emojiModifiers),
   (["ebase", "emojimodifierbase"], emojiModifierBases),
   (["epres", "emojipresentation"], emojiPresentation),
   (["extpict", "extendedpictographic"], extendedPictographic),
   (["ext", "extender"], extenders), (["grbase", "graphemebase"], graphemeBase),
   (["grext", "graphemeextend"], graphemeExtend), (["grlink", "graphemelink"], graphemeLinks),
   (["hex", "hexdigit"], hexDigits), (["hyphen"], hyphens),
   (["idc", "idcontinue"], idContinue), (["ids", "idstart"], idStart),
   (["idcompatmathcontinue"], idCompatMathContinue), (["idcompatmathstart"], idCompatMathStart),
   (["ideo", "ideographic"], ideographs), (["idsb", "idsbinaryoperator"], binaryOperators),
   (["idst", "idstrinaryoperator"], ternaryOperators),
   (["idsu", "idsunaryoperator"], unaryOperators), (["joinc", "joincontrol"], joinControls),
   (["loe", "logicalorderexception"], logicalOrderExceptions), (["lower", "lowercase"], lowercase),
   (["math"], math), (["mcm", "modifiercombiningmark"], modifierCombiningMarks),
   (["nchar", "noncharactercodepoint"], noncharacters),
   (["oalpha", "otheralphabetic"], otherAlphabetic),
   (["odi", "otherdefaultignorablecodepoint"], otherDefaultIgnorable),
   (["ogrext", "othergraphemeextend"], otherGraphemeExtend),
   (["oidc", "otheridcontinue"], otherIdContinue), (["oids", "otheridstart"], otherIdStart),
   (["olower", "otherlowercase"], otherLowercase), (["omath", "othermath"], otherMath),
   (["oupper", "otheruppercase"], otherUppercase), (["patsyn", "patternsyntax"], patternSyntax),
   (["patws", "patternwhitespace"], patternBlanks),
   (["pcm", "prependedconcatenationmark"], prependedMarks),
   (["qmark", "quotationmark"], quotationMarks), (["radical"], radicals),
   (["ri", "regionalindicator"], regionalIndicators), (["sd", "softdotted"], softDotted),
   (["sterm", "sentenceterminal"], sentenceTerminals),
   (["term", "terminalpunctuation"], terminalPunctuation),
   (["uideo", "unifiedideograph"], unifiedIdeographs), (["upper", "uppercase"], uppercase),
   (["vs", "variationselector"], variationSelectors),
   (["space", "whitespace", "wspace"], Text.blanks),
   (["xidc", "xidcontinue"], idContinue.difference notXidContinue),
   (["xids", "xidstart"], idStart.difference notXidStart)]

/-- The script of a key. -/
def script? (key : String) : Option Text.Script := Text.scripts.find? (·.1.contains key)

/-- The characters of a version of the standard: those of all versions up to it. -/
def age? (key : String) : Option CodePoints :=
  if (find? Text.ages key).isNone then none
  else
    let before := Text.ages.takeWhile (!·.1.contains key)
    some (.unionAll ((Text.ages.take (before.length + 1)).map (·.2)))

/-- The set of a property that is named alone. Three names are those of categories first. -/
def plainProperty? (key : String) : Option CodePoints :=
  (if ["cf", "sc", "lc"].contains key then none else find? plainProperties key) <|>
    category? key <|> (script? key).map (·.2)

/-- The set of a value of a property. -/
def propertyValue? (kind value : String) : Option CodePoints :=
  match kind with
  | "gc" | "generalcategory" => category? value
  | "sc" | "script" => (script? value).map (·.2)
  | "scx" | "scriptextensions" => (script? value).map Text.usedIn
  | "age" => age? value
  | "gcb" | "graphemeclusterbreak" => find? Text.Break.grapheme value
  | "wb" | "wordbreak" => find? Text.Break.word value
  | "sb" | "sentencebreak" => find? Text.Break.sentence value
  | _ => none

/-- Splits a text at the first place where something stands. -/
def splitAt? (sign : List Char) : List Char → Option (List Char × List Char)
  | [] => none
  | c :: rest =>
    if sign.isPrefixOf (c :: rest) then some ([], (c :: rest).drop sign.length)
    else (splitAt? sign rest).map fun (before, after) => (c :: before, after)

/-- The set of a property by its name, or by a kind of property and a value, and whether it is
denied. -/
def property? (name : List Char) : Option (CodePoints × Bool) :=
  match splitAt? ['!', '='] name, splitAt? [':'] name <|> splitAt? ['='] name with
  | some (kind, value), _ => (propertyValue? (propertyKey kind) (propertyKey value)).map (·, true)
  | none, some (kind, value) =>
    (propertyValue? (propertyKey kind) (propertyKey value)).map (·, false)
  | none, none => (plainProperty? (propertyKey name)).map (·, false)

end Telemetry.Pattern
