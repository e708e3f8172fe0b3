/-
The properties of characters that Unicode gives a name.

Few of them need a table of their own: most follow from the general categories, with
some characters added and some left out.
-/
import CountedConfig.Text.Alphanumeric
import CountedConfig.Text.Blank
import CountedConfig.Text.Printable
import CountedConfig.Unicode.General
import CountedConfig.Unicode.Property.Emoji
import CountedConfig.Unicode.Property.Letter
import CountedConfig.Unicode.Property.Sign

namespace CountedConfig
namespace Unicode

open Text (Runs Category)

/-! ### Letters and case -/

/-- What is alphabetic and is no letter. -/
def otherAlphabeticRuns : Runs := Runs.diff Text.otherAlphabeticRuns later

def alphabeticRuns : Runs :=
  Runs.union (ofCategories (Category.letters ++ [.letterNumber])) otherAlphabeticRuns

def lowercaseRuns : Runs := Runs.union (ofCategory .lowercase) otherLowercaseRuns

def uppercaseRuns : Runs := Runs.union (ofCategory .uppercase) otherUppercaseRuns

/-- What has a lowercase form that is another one. -/
def lowercasedRuns : Runs :=
  Runs.diff (Runs.union uppercaseRuns (ofCategory .titlecase)) lastingUppercaseRuns

/-- What has an uppercase form that is another one. -/
def uppercasedRuns : Runs :=
  Runs.diff (Runs.union lowercaseRuns (ofCategory .titlecase)) lastingLowercaseRuns

/-- What has a titlecase form that is another one, though it is uppercase. -/
def titlecasedRuns : Runs := [(0x1c4, 0x1c4), (0x1c7, 0x1c7), (0x1ca, 0x1ca), (0x1f1, 0x1f1)]

/-- The letters that fold to their uppercase forms, which therefore do not change. -/
def unfoldedRuns : Runs := [(0x13a0, 0x13f5)]

def ideographicRuns : Runs := Runs.union unifiedIdeographRuns otherIdeographRuns

/-! ### Marks and controls -/

/-- What extends the character before it and is no mark of the kinds that do. -/
def otherGraphemeExtendRuns : Runs :=
  Runs.union (Runs.diff Text.extendingRuns later) [(0xff9e, 0xff9f)]

/-- What extends the character before it. -/
def graphemeExtendRuns : Runs :=
  Runs.union (ofCategories [.nonspacingMark, .enclosingMark]) otherGraphemeExtendRuns

def joinControlRuns : Runs := [(0x200c, 0x200d)]

def variationRuns : Runs :=
  [(0x180b, 0x180d), (0x180f, 0x180f), (0xfe00, 0xfe0f), (0xe0100, 0xe01ef)]

/-- The signs that are written around the digits behind them. -/
def prependedRuns : Runs :=
  [(0x600, 0x605), (0x6dd, 0x6dd), (0x70f, 0x70f), (0x890, 0x891), (0x8e2, 0x8e2),
   (0x110bd, 0x110bd), (0x110cd, 0x110cd)]

/-- What shows nothing where it has no effect, besides format characters and variation
selectors. -/
def otherDefaultIgnorableRuns : Runs :=
  [(0x34f, 0x34f), (0x115f, 0x1160), (0x17b4, 0x17b5), (0x2065, 0x2065), (0x3164, 0x3164),
   (0xffa0, 0xffa0), (0xfff0, 0xfff8), (0xe0000, 0xe0000), (0xe0002, 0xe001f),
   (0xe0080, 0xe00ff), (0xe01f0, 0xe0fff)]

def emojiModifierRuns : Runs := [(0x1f3fb, 0x1f3ff)]

def regionalRuns : Runs := [(0x1f1e6, 0x1f1ff)]

/-! ### Names -/

def patternSpaceRuns : Runs :=
  [(0x9, 0xd), (0x20, 0x20), (0x85, 0x85), (0x200e, 0x200f), (0x2028, 0x2029)]

def otherIdStartRuns : Runs :=
  [(0x1885, 0x1886), (0x2118, 0x2118), (0x212e, 0x212e), (0x309b, 0x309c)]

def otherIdContinueRuns : Runs :=
  [(0xb7, 0xb7), (0x387, 0x387), (0x1369, 0x1371), (0x19da, 0x19da), (0x200c, 0x200d),
   (0x30fb, 0x30fb), (0xff65, 0xff65)]

def idStartRuns : Runs :=
  Runs.diff
    (Runs.union (ofCategories (Category.letters ++ [.letterNumber])) otherIdStartRuns)
    (Runs.union patternSyntaxRuns patternSpaceRuns)

def idContinueRuns : Runs :=
  Runs.diff
    (Runs.unions
      [idStartRuns, otherIdContinueRuns,
        ofCategories [.nonspacingMark, .spacingMark, .decimalNumber, .connector]])
    (Runs.union patternSyntaxRuns patternSpaceRuns)

/-- What a word can hold, where a pattern speaks of words. -/
def wordRuns : Runs :=
  Runs.unions
    [alphabeticRuns, joinControlRuns, ofCategories (Category.marks ++ [.decimalNumber, .connector])]

/-! ### The properties -/

/-- A property that a character has or has not. -/
inductive Property where
  | asciiHexDigit
  | alphabetic
  | bidiControl
  | bidiMirrored
  | caseIgnorable
  | cased
  | changesWhenCasefolded
  | changesWhenCasemapped
  | changesWhenLowercased
  | changesWhenTitlecased
  | changesWhenUppercased
  | dash
  | defaultIgnorable
  | deprecated
  | diacritic
  | emoji
  | emojiComponent
  | emojiModifier
  | emojiModifierBase
  | emojiPresentation
  | extendedPictographic
  | extender
  | graphemeBase
  | graphemeExtend
  | graphemeLink
  | hexDigit
  | hyphen
  | idsBinaryOperator
  | idsTrinaryOperator
  | idsUnaryOperator
  | idCompatMathContinue
  | idCompatMathStart
  | idContinue
  | idStart
  | ideographic
  | joinControl
  | logicalOrderException
  | lowercase
  | math
  | modifierCombiningMark
  | noncharacter
  | otherAlphabetic
  | otherDefaultIgnorable
  | otherGraphemeExtend
  | otherIdContinue
  | otherIdStart
  | otherLowercase
  | otherMath
  | otherUppercase
  | patternSyntax
  | patternWhiteSpace
  | prependedConcatenationMark
  | quotationMark
  | radical
  | regionalIndicator
  | sentenceTerminal
  | softDotted
  | terminalPunctuation
  | unifiedIdeograph
  | uppercase
  | variationSelector
  | whiteSpace
  | xidContinue
  | xidStart
  deriving DecidableEq, Repr

namespace Property

def runs : Property → Runs
  | .asciiHexDigit => [(0x30, 0x39), (0x41, 0x46), (0x61, 0x66)]
  | .alphabetic => alphabeticRuns
  | .bidiControl => [(0x61c, 0x61c), (0x200e, 0x200f), (0x202a, 0x202e), (0x2066, 0x2069)]
  | .bidiMirrored => mirroredRuns
  | .caseIgnorable =>
    Runs.unions
      [ofCategories [.nonspacingMark, .enclosingMark, .format, .modifierLetter, .modifierSymbol],
        midLetterRuns, midAnyRuns, [(0x27, 0x27)]]
  | .cased => Runs.unions [ofCategories Category.casedLetters, otherLowercaseRuns, otherUppercaseRuns]
  | .changesWhenCasefolded => Runs.union (Runs.diff lowercasedRuns unfoldedRuns) foldedRuns
  | .changesWhenCasemapped => Runs.union lowercasedRuns uppercasedRuns
  | .changesWhenLowercased => lowercasedRuns
  | .changesWhenTitlecased => Runs.union (Runs.diff uppercasedRuns ownTitlecaseRuns) titlecasedRuns
  | .changesWhenUppercased => uppercasedRuns
  | .dash =>
    Runs.union (ofCategories [.dash])
      [(0x2053, 0x2053), (0x207b, 0x207b), (0x208b, 0x208b), (0x2212, 0x2212)]
  | .defaultIgnorable =>
    Runs.diff (Runs.unions [ofCategories [.format], otherDefaultIgnorableRuns, variationRuns])
      (Runs.unions [prependedRuns, [(0xfff9, 0xfffb), (0x13430, 0x1343f)]])
  | .deprecated =>
    [(0x149, 0x149), (0x673, 0x673), (0xf77, 0xf77), (0xf79, 0xf79), (0x17a3, 0x17a4),
      (0x206a, 0x206f), (0x2329, 0x232a), (0xe0001, 0xe0001)]
  | .diacritic => diacriticRuns
  | .emoji => emojiRuns
  | .emojiComponent => emojiComponentRuns
  | .emojiModifier => emojiModifierRuns
  | .emojiModifierBase => emojiModifierBaseRuns
  | .emojiPresentation => emojiPresentationRuns
  | .extendedPictographic => pictographicRuns
  | .extender => extenderRuns
  | .graphemeBase =>
    Runs.compl (Runs.unions
      [ofCategories (Category.others ++ [.lineSeparator, .paragraphSeparator]), graphemeExtendRuns,
        [(0xd800, 0xdfff)]])
  | .graphemeExtend => graphemeExtendRuns
  | .graphemeLink => graphemeLinkRuns
  | .hexDigit =>
    [(0x30, 0x39), (0x41, 0x46), (0x61, 0x66), (0xff10, 0xff19), (0xff21, 0xff26),
      (0xff41, 0xff46)]
  | .hyphen => hyphenRuns
  | .idsBinaryOperator => [(0x2ff0, 0x2ff1), (0x2ff4, 0x2ffd), (0x31ef, 0x31ef)]
  | .idsTrinaryOperator => [(0x2ff2, 0x2ff3)]
  | .idsUnaryOperator => [(0x2ffe, 0x2fff)]
  | .idCompatMathContinue => compatMathContinueRuns
  | .idCompatMathStart => compatMathStartRuns
  | .idContinue => idContinueRuns
  | .idStart => idStartRuns
  | .ideographic => ideographicRuns
  | .joinControl => joinControlRuns
  | .logicalOrderException =>
    [(0xe40, 0xe44), (0xec0, 0xec4), (0x19b5, 0x19b7), (0x19ba, 0x19ba), (0xaab5, 0xaab6),
      (0xaab9, 0xaab9), (0xaabb, 0xaabc)]
  | .lowercase => lowercaseRuns
  | .math => Runs.union (ofCategories [.mathSymbol]) otherMathRuns
  | .modifierCombiningMark =>
    [(0x654, 0x655), (0x658, 0x658), (0x6dc, 0x6dc), (0x6e3, 0x6e3), (0x6e7, 0x6e8),
      (0x8ca, 0x8cb), (0x8cd, 0x8cf), (0x8d3, 0x8d3), (0x8f3, 0x8f3)]
  | .noncharacter =>
    (0xfdd0, 0xfdef) ::
      (List.range 17).map fun plane => (0x10000 * plane + 0xfffe, 0x10000 * plane + 0xffff)
  | .otherAlphabetic => otherAlphabeticRuns
  | .otherDefaultIgnorable => otherDefaultIgnorableRuns
  | .otherGraphemeExtend => otherGraphemeExtendRuns
  | .otherIdContinue => otherIdContinueRuns
  | .otherIdStart => otherIdStartRuns
  | .otherLowercase => otherLowercaseRuns
  | .otherMath => otherMathRuns
  | .otherUppercase => otherUppercaseRuns
  | .patternSyntax => patternSyntaxRuns
  | .patternWhiteSpace => patternSpaceRuns
  | .prependedConcatenationMark => prependedRuns
  | .quotationMark => quotationMarkRuns
  | .radical => [(0x2e80, 0x2e99), (0x2e9b, 0x2ef3), (0x2f00, 0x2fd5)]
  | .regionalIndicator => regionalRuns
  | .sentenceTerminal => sentenceTerminalRuns
  | .softDotted => softDottedRuns
  | .terminalPunctuation => Runs.union sentenceTerminalRuns otherTerminalRuns
  | .unifiedIdeograph => unifiedIdeographRuns
  | .uppercase => uppercaseRuns
  | .variationSelector => variationRuns
  | .whiteSpace => Text.blankRuns
  | .xidContinue => Runs.diff idContinueRuns unstableContinueRuns
  | .xidStart => Runs.diff idStartRuns unstableStartRuns

/-- The properties by their names, short and long. -/
def names : List (List String × Property) :=
  [(["ahex", "asciihexdigit"], .asciiHexDigit),
    (["alpha", "alphabetic"], .alphabetic),
    (["bidic", "bidicontrol"], .bidiControl),
    (["bidim", "bidimirrored"], .bidiMirrored),
    (["caseignorable", "ci"], .caseIgnorable),
    (["cased"], .cased),
    (["changeswhencasefolded", "cwcf"], .changesWhenCasefolded),
    (["changeswhencasemapped", "cwcm"], .changesWhenCasemapped),
    (["changeswhenlowercased", "cwl"], .changesWhenLowercased),
    (["changeswhentitlecased", "cwt"], .changesWhenTitlecased),
    (["changeswhenuppercased", "cwu"], .changesWhenUppercased),
    (["dash"], .dash),
    (["defaultignorablecodepoint", "di"], .defaultIgnorable),
    (["dep", "deprecated"], .deprecated),
    (["dia", "diacritic"], .diacritic),
    (["emoji"], .emoji),
    (["ecomp", "emojicomponent"], .emojiComponent),
    (["emod", "emojimodifier"], .emojiModifier),
    (["ebase", "emojimodifierbase"], .emojiModifierBase),
    (["emojipresentation", "epres"], .emojiPresentation),
    (["extendedpictographic", "extpict"], .extendedPictographic),
    (["ext", "extender"], .extender),
    (["graphemebase", "grbase"], .graphemeBase),
    (["graphemeextend", "grext"], .graphemeExtend),
    (["graphemelink", "grlink"], .graphemeLink),
    (["hex", "hexdigit"], .hexDigit),
    (["hyphen"], .hyphen),
    (["idsb", "idsbinaryoperator"], .idsBinaryOperator),
    (["idst", "idstrinaryoperator"], .idsTrinaryOperator),
    (["idsu", "idsunaryoperator"], .idsUnaryOperator),
    (["idcompatmathcontinue"], .idCompatMathContinue),
    (["idcompatmathstart"], .idCompatMathStart),
    (["idc", "idcontinue"], .idContinue),
    (["ids", "idstart"], .idStart),
    (["ideo", "ideographic"], .ideographic),
    (["joinc", "joincontrol"], .joinControl),
    (["loe", "logicalorderexception"], .logicalOrderException),
    (["lower", "lowercase"], .lowercase),
    (["math"], .math),
    (["mcm", "modifiercombiningmark"], .modifierCombiningMark),
    (["nchar", "noncharactercodepoint"], .noncharacter),
    (["oalpha", "otheralphabetic"], .otherAlphabetic),
    (["odi", "otherdefaultignorablecodepoint"], .otherDefaultIgnorable),
    (["ogrext", "othergraphemeextend"], .otherGraphemeExtend),
    (["oidc", "otheridcontinue"], .otherIdContinue),
    (["oids", "otheridstart"], .otherIdStart),
    (["olower", "otherlowercase"], .otherLowercase),
    (["omath", "othermath"], .otherMath),
    (["otheruppercase", "oupper"], .otherUppercase),
    (["patsyn", "patternsyntax"], .patternSyntax),
    (["patternwhitespace", "patws"], .patternWhiteSpace),
    (["pcm", "prependedconcatenationmark"], .prependedConcatenationMark),
    (["qmark", "quotationmark"], .quotationMark),
    (["radical"], .radical),
    (["regionalindicator", "ri"], .regionalIndicator),
    (["sentenceterminal", "sterm"], .sentenceTerminal),
    (["sd", "softdotted"], .softDotted),
    (["term", "terminalpunctuation"], .terminalPunctuation),
    (["uideo", "unifiedideograph"], .unifiedIdeograph),
    (["upper", "uppercase"], .uppercase),
    (["variationselector", "vs"], .variationSelector),
    (["space", "whitespace", "wspace"], .whiteSpace),
    (["xidc", "xidcontinue"], .xidContinue),
    (["xids", "xidstart"], .xidStart)]

end Property

/-- The names of the other properties of Unicode. -/
def otherPropertyNames : List String :=
  ["age", "bc", "bidiclass", "bidimirroringglyph", "bmg", "bidipairedbracket", "bpb",
    "bidipairedbrackettype", "bpt", "blk", "block", "canonicalcombiningclass", "ccc",
    "casefolding", "cf", "ce", "compositionexclusion", "changeswhennfkccasefolded", "cwkcf",
    "cjkaccountingnumeric", "kaccountingnumeric", "cjkcompatibilityvariant",
    "kcompatibilityvariant", "cjkiicore", "kiicore", "cjkirggsource", "kirggsource",
    "cjkirghsource", "kirghsource", "cjkirgjsource", "kirgjsource", "cjkirgkpsource",
    "kirgkpsource", "cjkirgksource", "kirgksource", "cjkirgmsource", "kirgmsource",
    "cjkirgssource", "kirgssource", "cjkirgtsource", "kirgtsource", "cjkirguksource",
    "kirguksource", "cjkirgusource", "kirgusource", "cjkirgvsource", "kirgvsource",
    "cjkothernumeric", "kothernumeric", "cjkprimarynumeric", "kprimarynumeric", "cjkrsunicode",
    "krsunicode", "unicoderadicalstroke", "urs", "compex", "fullcompositionexclusion",
    "decompositionmapping", "dm", "decompositiontype", "dt", "ea", "eastasianwidth", "equideo",
    "equivalentunifiedideograph", "expandsonnfc", "xonfc", "expandsonnfd", "xonfd",
    "expandsonnfkc", "xonfkc", "expandsonnfkd", "xonfkd", "fcnfkc", "fcnfkcclosure", "gc",
    "generalcategory", "gcb", "graphemeclusterbreak", "hangulsyllabletype", "hst", "incb",
    "indicconjunctbreak", "indicpositionalcategory", "inpc", "indicsyllabiccategory", "insc",
    "isc", "ocomment", "jamoshortname", "jsn", "jg", "joininggroup", "joiningtype", "jt",
    "kehcat", "kehdesc", "kehhg", "kehifao", "kehjsesh", "kehnomirror", "kehnorotate", "lb",
    "linebreak", "lc", "lowercasemapping", "na", "name", "na1", "unicode1name", "namealias",
    "nfcqc", "nfcquickcheck", "nfdqc", "nfdquickcheck", "nfkccasefold", "nfkccf", "nfkcqc",
    "nfkcquickcheck", "nfkcscf", "nfkcsimplecasefold", "nfkdqc", "nfkdquickcheck", "nt",
    "numerictype", "numericvalue", "nv", "sb", "sentencebreak", "sc", "script", "scf", "sfc",
    "simplecasefolding", "scriptextensions", "scx", "simplelowercasemapping", "slc",
    "simpletitlecasemapping", "stc", "simpleuppercasemapping", "suc", "tc", "titlecasemapping",
    "uc", "uppercasemapping", "verticalorientation", "vo", "wb", "wordbreak"]

end Unicode
end CountedConfig
