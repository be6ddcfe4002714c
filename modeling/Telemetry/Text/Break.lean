import Telemetry.Text.Property
/-!
How text breaks into graphemes, words and sentences: the part that each character plays. The names
of the parts are in small letters without separators.
-/
namespace Telemetry.Text.Break

open Property

/-- Characters by the part they play, under its names. -/
abbrev Parts := List (List String × CodePoints)

/-- Spacing marks after which a grapheme may end. -/
def notSpacing : CodePoints :=
  [(0x102b, 0x102c), (0x1038, 0x1038), (0x1062, 0x1064), (0x1067, 0x106d), (0x1083, 0x1083),
   (0x1087, 0x108c), (0x108f, 0x108f), (0x109a, 0x109d), (0x1a61, 0x1a61), (0x1a63, 0x1a64),
   (0xaa7b, 0xaa7b), (0xaa7d, 0xaa7d), (0x11720, 0x11721)]

/-- Letters that stand in front of the grapheme they belong to. -/
def prependedLetters : CodePoints :=
  [(0xd4e, 0xd4e), (0x111c2, 0x111c3), (0x113d1, 0x113d1), (0x1193f, 0x1193f), (0x11941, 0x11941),
   (0x11a3a, 0x11a3a), (0x11a84, 0x11a89), (0x11d46, 0x11d46), (0x11f02, 0x11f02)]

/-- Characters that words are made of though they are not alphabetic. -/
def otherWordLetters : CodePoints :=
  [(0xb8, 0xb8), (0x2c2, 0x2c5), (0x2d2, 0x2d7), (0x2de, 0x2df), (0x2e5, 0x2eb), (0x2ed, 0x2ed),
   (0x2ef, 0x2ff), (0x55a, 0x55c), (0x55e, 0x55e), (0x58a, 0x58a), (0x5f3, 0x5f3), (0x70f, 0x70f),
   (0xa708, 0xa716), (0xa720, 0xa721), (0xa789, 0xa78a), (0xab5b, 0xab5b)]

/-- Letters of scripts that do not set words apart. -/
def unspacedLetters : CodePoints :=
  [(0xe01, 0xe30), (0xe32, 0xe33), (0xe40, 0xe46), (0xe81, 0xe82), (0xe84, 0xe84), (0xe86, 0xe8a),
   (0xe8c, 0xea3), (0xea5, 0xea5), (0xea7, 0xeb0), (0xeb2, 0xeb3), (0xebd, 0xebd), (0xec0, 0xec4),
   (0xec6, 0xec6), (0xedc, 0xedf), (0x1000, 0x102a), (0x103f, 0x103f), (0x1050, 0x1055),
   (0x105a, 0x105d), (0x1061, 0x1061), (0x1065, 0x1066), (0x106e, 0x1070), (0x1075, 0x1081),
   (0x108e, 0x108e), (0x1780, 0x17b3), (0x17d7, 0x17d7), (0x17dc, 0x17dc), (0x1950, 0x196d),
   (0x1970, 0x1974), (0x1980, 0x19ab), (0x19b0, 0x19c9), (0x1a20, 0x1a54), (0x1aa7, 0x1aa7),
   (0xa9e0, 0xa9e4), (0xa9e6, 0xa9ef), (0xa9fa, 0xa9fe), (0xaa60, 0xaa76), (0xaa7a, 0xaa7a),
   (0xaa7e, 0xaaaf), (0xaab1, 0xaab1), (0xaab5, 0xaab6), (0xaab9, 0xaabd), (0xaac0, 0xaac0),
   (0xaac2, 0xaac2), (0xaadb, 0xaadd), (0x11700, 0x1171a), (0x11740, 0x11746)]

/-- The alphabetic characters of the hiragana. -/
def hiragana : CodePoints :=
  [(0x3041, 0x3096), (0x309d, 0x309f), (0x1b001, 0x1b11f), (0x1b132, 0x1b132), (0x1b150, 0x1b152)]

/-- The characters of the katakana. -/
def katakana : CodePoints :=
  [(0x3031, 0x3035), (0x309b, 0x309c), (0x30a0, 0x30fa), (0x30fc, 0x30ff), (0x31f0, 0x31ff),
   (0x32d0, 0x32fe), (0x3300, 0x3357), (0xff66, 0xff9d), (0x1aff0, 0x1aff3), (0x1aff5, 0x1affb),
   (0x1affd, 0x1affe), (0x1b000, 0x1b000), (0x1b120, 0x1b122), (0x1b155, 0x1b155),
   (0x1b164, 0x1b167)]

/-- Hebrew letters. -/
def hebrewLetters : CodePoints :=
  [(0x5d0, 0x5ea), (0x5ef, 0x5f2), (0xfb1d, 0xfb1d), (0xfb1f, 0xfb28), (0xfb2a, 0xfb36),
   (0xfb38, 0xfb3c), (0xfb3e, 0xfb3e), (0xfb40, 0xfb41), (0xfb43, 0xfb44), (0xfb46, 0xfb4f)]

/-- Punctuation after which a sentence goes on. -/
def continuingPunctuation : CodePoints :=
  [(0x2c, 0x2d), (0x3a, 0x3b), (0x37e, 0x37e), (0x55d, 0x55d), (0x60c, 0x60d), (0x7f8, 0x7f8),
   (0x1802, 0x1802), (0x1808, 0x1808), (0x2013, 0x2014), (0x3001, 0x3001), (0xfe10, 0xfe11),
   (0xfe13, 0xfe14), (0xfe31, 0xfe32), (0xfe50, 0xfe51), (0xfe54, 0xfe55), (0xfe58, 0xfe58),
   (0xfe63, 0xfe63), (0xff0c, 0xff0d), (0xff1a, 0xff1b), (0xff64, 0xff64)]

/-- Full stops, which end abbreviations too. -/
def ambiguousTerminals : CodePoints :=
  [(0x2e, 0x2e), (0x2024, 0x2024), (0xfe52, 0xfe52), (0xff0e, 0xff0e)]

/-- Ornaments that are used as quotation marks and brackets. -/
def sentenceOrnaments : CodePoints :=
  [(0x275b, 0x2760), (0x2e00, 0x2e01), (0x2e06, 0x2e08), (0x2e0b, 0x2e0b), (0x1f676, 0x1f678)]

/-- What the standard keeps with the grapheme before it. -/
def graphemeExtenders : CodePoints := graphemeExtend.union emojiModifiers

/-- What stands in front of the grapheme it belongs to. -/
def prepended : CodePoints := prependedMarks.union prependedLetters

/-- What no grapheme goes across. -/
def controlling : CodePoints :=
  ((charactersOf [.zl, .zp, .cc, .cf]).union
    ((charactersOf [.cn]).intersection defaultIgnorable)).difference
      (.unionAll [[(0xa, 0xa), (0xd, 0xd)], joinControls, prependedMarks, graphemeExtend])

/-- Spacing marks that belong to the grapheme before them, and two vowels that do. -/
def spacing : CodePoints :=
  (spacingMarks.difference (graphemeExtend.union notSpacing)).union
    [(0xe33, 0xe33), (0xeb3, 0xeb3)]

/-- The Hangul syllables. -/
def syllables : CodePoints := [(0xac00, 0xd7a3)]

/-- The Hangul syllables that end in a vowel: every twenty-eighth one. -/
def openSyllables : CodePoints :=
  (List.range 399).map fun i => (0xac00 + 28 * i, 0xac00 + 28 * i)

/-- The parts of characters in graphemes. -/
def grapheme : Parts :=
  [(["cr"], [(0xd, 0xd)]), (["lf"], [(0xa, 0xa)]), (["cn", "control"], controlling),
   (["ex", "extend"], graphemeExtenders), (["zwj"], [(0x200d, 0x200d)]),
   (["ri", "regionalindicator"], regionalIndicators), (["pp", "prepend"], prepended),
   (["sm", "spacingmark"], spacing),
   (["l"], [(0x1100, 0x115f), (0xa960, 0xa97c)]),
   (["v"],
     [(0x1160, 0x11a7), (0xd7b0, 0xd7c6), (0x16d63, 0x16d63), (0x16d67, 0x16d6a)]),
   (["t"], [(0x11a8, 0x11ff), (0xd7cb, 0xd7fb)]),
   (["lv"], openSyllables), (["lvt"], syllables.difference openSyllables)]

/-- What extends the word before it. -/
def wordExtenders : CodePoints := .unionAll [graphemeExtend, spacingMarks, emojiModifiers]

/-- Format characters that no rule sets apart. -/
def wordFormat : CodePoints :=
  formatCharacters.difference
    (.unionAll [[(0x200b, 0x200d)], prepended, wordExtenders])

/-- The letters of words, where words are set apart by spaces. -/
def wordLetters : CodePoints :=
  (alphabetic.difference (.unionAll [ideographs, katakana, unspacedLetters, hiragana,
    wordExtenders, hebrewLetters])).union otherWordLetters

/-- What is written inside numbers, besides digits. -/
def numericMarks : CodePoints :=
  [(0x66b, 0x66b), (0x19da, 0x19da)] ++ prependedMarks.difference [(0x70f, 0x70f)]

/-- The parts of characters in words. -/
def word : Parts :=
  [(["cr"], [(0xd, 0xd)]), (["lf"], [(0xa, 0xa)]),
   (["nl", "newline"], [(0xb, 0xc), (0x85, 0x85), (0x2028, 0x2029)]),
   (["extend"], wordExtenders), (["zwj"], [(0x200d, 0x200d)]), (["fo", "format"], wordFormat),
   (["ri", "regionalindicator"], regionalIndicators), (["ka", "katakana"], katakana),
   (["hl", "hebrewletter"], hebrewLetters), (["le", "aletter"], wordLetters),
   (["sq", "singlequote"], [(0x27, 0x27)]), (["dq", "doublequote"], [(0x22, 0x22)]),
   (["mb", "midnumlet"],
     [(0x2e, 0x2e), (0x2018, 0x2019), (0x2024, 0x2024), (0xfe52, 0xfe52), (0xff07, 0xff07),
      (0xff0e, 0xff0e)]),
   (["ml", "midletter"],
     [(0x3a, 0x3a), (0xb7, 0xb7), (0x387, 0x387), (0x55f, 0x55f), (0x5f4, 0x5f4), (0x2027, 0x2027),
      (0xfe13, 0xfe13), (0xfe55, 0xfe55), (0xff1a, 0xff1a)]),
   (["mn", "midnum"],
     [(0x2c, 0x2c), (0x3b, 0x3b), (0x37e, 0x37e), (0x589, 0x589), (0x60c, 0x60d), (0x66c, 0x66c),
      (0x7f8, 0x7f8), (0x2044, 0x2044), (0xfe50, 0xfe50), (0xfe54, 0xfe54), (0xff0c, 0xff0c),
      (0xff1b, 0xff1b)]),
   (["nu", "numeric"], .unionAll [decimalDigits, numericMarks]),
   (["ex", "extendnumlet"],
     [(0x5f, 0x5f), (0x202f, 0x202f), (0x203f, 0x2040), (0x2054, 0x2054), (0xfe33, 0xfe34),
      (0xfe4d, 0xfe4f), (0xff3f, 0xff3f)]),
   (["wsegspace"],
     [(0x20, 0x20), (0x1680, 0x1680), (0x2000, 0x2006), (0x2008, 0x200a), (0x205f, 0x205f),
      (0x3000, 0x3000)])]

/-- What extends the sentence before it. -/
def sentenceExtenders : CodePoints :=
  .unionAll [graphemeExtend, spacingMarks, [(0x200d, 0x200d)]]

/-- Small letters in sentences. Georgian letters have no case there. -/
def sentenceLower : CodePoints :=
  lowercase.difference (.unionAll [[(0x345, 0x345)], [(0x10d0, 0x10fa), (0x10fd, 0x10ff)]])

/-- Capital letters in sentences. -/
def sentenceUpper : CodePoints :=
  (uppercase.union titlecaseLetters).difference [(0x1c90, 0x1cba), (0x1cbd, 0x1cbf)]

/-- Other letters in sentences. -/
def sentenceLetters : CodePoints :=
  (alphabetic.difference (.unionAll [sentenceLower, sentenceUpper, sentenceExtenders])).union
    [(0x5f3, 0x5f3)]

/-- Brackets and quotation marks. -/
def closing : CodePoints :=
  ((charactersOf [.ps, .pe, .pi, .pf]).union
    (quotationMarks.difference [(0xff02, 0xff02), (0xff07, 0xff07)])).union sentenceOrnaments

/-- The parts of characters in sentences. -/
def sentence : Parts :=
  [(["cr"], [(0xd, 0xd)]), (["lf"], [(0xa, 0xa)]),
   (["se", "sep"], [(0x85, 0x85), (0x2028, 0x2029)]),
   (["ex", "extend"], sentenceExtenders),
   (["fo", "format"], formatCharacters.difference
     (.unionAll [[(0x200c, 0x200d)], prepended.difference [(0x70f, 0x70f)], graphemeExtend])),
   (["sp"],
     [(0x9, 0x9), (0xb, 0xc), (0x20, 0x20), (0xa0, 0xa0), (0x1680, 0x1680), (0x2000, 0x200a),
      (0x202f, 0x202f), (0x205f, 0x205f), (0x3000, 0x3000)]),
   (["lo", "lower"], sentenceLower), (["up", "upper"], sentenceUpper),
   (["le", "oletter"], sentenceLetters),
   (["nu", "numeric"], .unionAll [decimalDigits, numericMarks, [(0x66c, 0x66c)]]),
   (["at", "aterm"], ambiguousTerminals),
   (["sc", "scontinue"], continuingPunctuation),
   (["st", "sterm"], sentenceTerminals.difference ambiguousTerminals),
   (["cl", "close"], closing)]

end Telemetry.Text.Break
