/-
Where a text can be broken: the classes of characters by which it is divided into what
readers see as characters, into words and into sentences.
-/
import CountedConfig.Unicode.Property

namespace CountedConfig
namespace Unicode

open Text (Runs Category)

/-- The characters of a class by its name, in a list of classes with their names. -/
def classByName? (entries : List (List String × Runs)) (name : String) : Option Runs :=
  (entries.find? fun entry => entry.1.contains name).map (·.2)

/-! ### Characters as readers see them -/

/-- The syllables of Hangul that end in a vowel: the first of every 28. -/
def openSyllables : Runs := (List.range 399).map fun n => (0xac00 + 28 * n, 0xac00 + 28 * n)

/-- The syllables of Hangul that end in a consonant. -/
def closedSyllables : Runs :=
  (List.range 399).map fun n => (0xac00 + 28 * n + 1, 0xac00 + 28 * n + 27)

def prependRuns : Runs :=
  Runs.union prependedRuns
    [(0xd4e, 0xd4e), (0x111c2, 0x111c3), (0x113d1, 0x113d1), (0x1193f, 0x1193f),
     (0x11941, 0x11941), (0x11a3a, 0x11a3a), (0x11a84, 0x11a89), (0x11d46, 0x11d46),
     (0x11f02, 0x11f02)]

/-- What goes with the character before it. -/
def extendRuns : Runs := Runs.union graphemeExtendRuns emojiModifierRuns

/-- The marks that take space and stand by themselves. -/
def loneMarkRuns : Runs :=
  [(0x102b, 0x102c), (0x1038, 0x1038), (0x1062, 0x1064), (0x1067, 0x106d), (0x1083, 0x1083),
   (0x1087, 0x108c), (0x108f, 0x108f), (0x109a, 0x109c), (0x1a61, 0x1a61), (0x1a63, 0x1a64),
   (0xaa7b, 0xaa7b), (0xaa7d, 0xaa7d), (0x11720, 0x11721)]

/-- The format characters that are written as a part of the text. -/
def tagRuns : Runs := [(0xe0020, 0xe007f)]

/-- The characters of a class by the name of the class, where characters are divided. -/
def graphemeClass? (name : String) : Option Runs :=
  classByName?
    [(["cr"], [(0xd, 0xd)]),
      (["lf"], [(0xa, 0xa)]),
      (["cn", "control"],
        Runs.diff
          (Runs.unions
            [ofCategories [.control, .format, .lineSeparator, .paragraphSeparator],
              Runs.inter (ofCategory .unassigned) (Property.runs .defaultIgnorable)])
          (Runs.unions [[(0xa, 0xa), (0xd, 0xd)], joinControlRuns, prependedRuns, tagRuns])),
      (["ex", "extend"], extendRuns),
      (["l"], [(0x1100, 0x115f), (0xa960, 0xa97c)]),
      (["lv"], openSyllables),
      (["lvt"], closedSyllables),
      (["pp", "prepend"], prependRuns),
      (["ri", "regionalindicator"], regionalRuns),
      (["sm", "spacingmark"],
        Runs.diff (Runs.union (ofCategory .spacingMark) [(0xe33, 0xe33), (0xeb3, 0xeb3)])
          (Runs.union extendRuns loneMarkRuns)),
      (["t"], [(0x11a8, 0x11ff), (0xd7cb, 0xd7fb)]),
      (["v"], [(0x1160, 0x11a7), (0xd7b0, 0xd7c6), (0x16d63, 0x16d63), (0x16d67, 0x16d6a)]),
      (["zwj"], [(0x200d, 0x200d)])] name

/-! ### Words -/

/-- The digits, and the signs that go with numbers. -/
def numericRuns : Runs :=
  Runs.unions
    [ofCategory .decimalNumber, [(0x600, 0x605), (0x66b, 0x66b), (0x6dd, 0x6dd)],
      [(0x890, 0x891), (0x8e2, 0x8e2), (0x19da, 0x19da), (0x110bd, 0x110bd), (0x110cd, 0x110cd)]]

/-- The marks that go with the character before them, in a word or a sentence. -/
def wordExtendRuns : Runs := Runs.union extendRuns (ofCategory .spacingMark)

/-- The letters that a word is made of, in a script that sets blanks between words. -/
def wordLetters : Runs :=
  Runs.union wordLetterRuns
    (Runs.diff alphabeticRuns
      (Runs.unions
        [ideographicRuns, katakanaRuns, wordExtendRuns, hebrewLetterRuns, unspacedRuns]))

/-- The characters of a class by the name of the class, where words are divided. -/
def wordClass? (name : String) : Option Runs :=
  classByName?
    [(["le", "aletter"], wordLetters),
      (["cr"], [(0xd, 0xd)]),
      (["dq", "doublequote"], [(0x22, 0x22)]),
      (["ex", "extendnumlet"], Runs.union (ofCategory .connector) [(0x202f, 0x202f)]),
      (["extend"], wordExtendRuns),
      (["fo", "format"],
        Runs.diff (ofCategory .format)
          (Runs.unions [[(0x200b, 0x200d)], prependedRuns, tagRuns])),
      (["hl", "hebrewletter"], hebrewLetterRuns),
      (["ka", "katakana"], katakanaRuns),
      (["lf"], [(0xa, 0xa)]),
      (["ml", "midletter"], midLetterRuns),
      (["mn", "midnum"], midNumberRuns),
      (["mb", "midnumlet"], midAnyRuns),
      (["nl", "newline"], [(0xb, 0xc), (0x85, 0x85), (0x2028, 0x2029)]),
      (["nu", "numeric"], numericRuns),
      (["ri", "regionalindicator"], regionalRuns),
      (["sq", "singlequote"], [(0x27, 0x27)]),
      (["wsegspace"], Runs.diff (ofCategory .space) [(0xa0, 0xa0), (0x2007, 0x2007), (0x202f, 0x202f)]),
      (["zwj"], [(0x200d, 0x200d)])] name

/-! ### Sentences -/

/-- The letters of Georgian, which sentences begin and go on with alike. -/
def georgianRuns : Runs :=
  [(0x10d0, 0x10fa), (0x10fd, 0x10ff), (0x1c90, 0x1cba), (0x1cbd, 0x1cbf)]

def sentenceLower : Runs :=
  Runs.diff lowercaseRuns (Runs.union graphemeExtendRuns georgianRuns)

def sentenceUpper : Runs :=
  Runs.diff (Runs.union uppercaseRuns (ofCategory .titlecase)) georgianRuns

def sentenceExtend : Runs :=
  Runs.unions [graphemeExtendRuns, ofCategory .spacingMark, [(0x200d, 0x200d)]]

/-- What ends a sentence unless the sentence goes on with a lowercase letter. -/
def fullStopRuns : Runs :=
  [(0x2e, 0x2e), (0x2024, 0x2024), (0xfe52, 0xfe52), (0xff0e, 0xff0e)]

/-- The characters of a class by the name of the class, where sentences are divided. -/
def sentenceClass? (name : String) : Option Runs :=
  classByName?
    [(["at", "aterm"], fullStopRuns),
      (["cr"], [(0xd, 0xd)]),
      (["cl", "close"],
        Runs.diff
          (Runs.unions
            [ofCategories [.openBracket, .closeBracket], quotationMarkRuns,
              [(0x275b, 0x2760), (0x2e00, 0x2e0d), (0x2e1c, 0x2e1d), (0x2e20, 0x2e21)],
              [(0x1f676, 0x1f678)]])
          [(0xff02, 0xff02), (0xff07, 0xff07)]),
      (["ex", "extend"], sentenceExtend),
      (["fo", "format"],
        Runs.diff (ofCategory .format)
          (Runs.unions [joinControlRuns, tagRuns, Runs.diff prependedRuns [(0x70f, 0x70f)]])),
      (["lf"], [(0xa, 0xa)]),
      (["lo", "lower"], sentenceLower),
      (["nu", "numeric"], Runs.union numericRuns [(0x66c, 0x66c)]),
      (["le", "oletter"],
        Runs.diff (Runs.union alphabeticRuns [(0x5f3, 0x5f3)])
          (Runs.unions [sentenceLower, sentenceUpper, sentenceExtend])),
      (["sc", "scontinue"], sentenceContinueRuns),
      (["st", "sterm"], Runs.diff sentenceTerminalRuns fullStopRuns),
      (["se", "sep"], [(0x85, 0x85), (0x2028, 0x2029)]),
      (["sp"],
        Runs.diff Text.blankRuns [(0xa, 0xa), (0xd, 0xd), (0x85, 0x85), (0x2028, 0x2029)]),
      (["up", "upper"], sentenceUpper)] name

end Unicode
end CountedConfig
