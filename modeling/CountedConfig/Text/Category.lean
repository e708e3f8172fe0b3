/-
The general categories of Unicode 17.  Each character belongs to exactly one of
them, and one that no table lists is unassigned.
-/
import CountedConfig.Text.Category.Letter
import CountedConfig.Text.Category.Mark
import CountedConfig.Text.Category.Number
import CountedConfig.Text.Category.Punctuation
import CountedConfig.Text.Category.Symbol
import CountedConfig.Text.Runs

namespace CountedConfig
namespace Text

/-- What kind of character a character is. -/
inductive Category where
  | uppercase
  | lowercase
  | titlecase
  | modifierLetter
  | otherLetter
  | nonspacingMark
  | spacingMark
  | enclosingMark
  | decimalNumber
  | letterNumber
  | otherNumber
  | connector
  | dash
  | openBracket
  | closeBracket
  | initialQuote
  | finalQuote
  | otherPunctuation
  | mathSymbol
  | currencySymbol
  | modifierSymbol
  | otherSymbol
  | space
  | lineSeparator
  | paragraphSeparator
  | control
  | format
  | surrogate
  | privateUse
  | unassigned
  deriving DecidableEq, Repr

namespace Category

def spaceRuns : List (Nat × Nat) :=
  [(0x20, 0x20), (0xa0, 0xa0), (0x1680, 0x1680), (0x2000, 0x200a), (0x202f, 0x202f),
   (0x205f, 0x205f), (0x3000, 0x3000)]

def formatRuns : List (Nat × Nat) :=
  [(0xad, 0xad), (0x600, 0x605), (0x61c, 0x61c), (0x6dd, 0x6dd), (0x70f, 0x70f), (0x890, 0x891),
   (0x8e2, 0x8e2), (0x180e, 0x180e), (0x200b, 0x200f), (0x202a, 0x202e), (0x2060, 0x2064),
   (0x2066, 0x206f), (0xfeff, 0xfeff), (0xfff9, 0xfffb), (0x110bd, 0x110bd), (0x110cd, 0x110cd),
   (0x13430, 0x1343f), (0x1bca0, 0x1bca3), (0x1d173, 0x1d17a), (0xe0001, 0xe0001),
   (0xe0020, 0xe007f)]

/-- The characters that a table lists for a category. -/
def runs : Category → List (Nat × Nat)
  | .uppercase => uppercaseRuns
  | .lowercase => lowercaseRuns
  | .titlecase => titlecaseRuns
  | .modifierLetter => modifierLetterRuns
  | .otherLetter => otherLetterRuns
  | .nonspacingMark => nonspacingMarkRuns
  | .spacingMark => spacingMarkRuns
  | .enclosingMark => enclosingMarkRuns
  | .decimalNumber => decimalNumberRuns
  | .letterNumber => letterNumberRuns
  | .otherNumber => otherNumberRuns
  | .connector => connectorRuns
  | .dash => dashRuns
  | .openBracket => openRuns
  | .closeBracket => closeRuns
  | .initialQuote => initialQuoteRuns
  | .finalQuote => finalQuoteRuns
  | .otherPunctuation => otherPunctuationRuns
  | .mathSymbol => mathSymbolRuns
  | .currencySymbol => currencySymbolRuns
  | .modifierSymbol => modifierSymbolRuns
  | .otherSymbol => otherSymbolRuns
  | .space => spaceRuns
  | .lineSeparator => [(0x2028, 0x2028)]
  | .paragraphSeparator => [(0x2029, 0x2029)]
  | .control => [(0x0, 0x1f), (0x7f, 0x9f)]
  | .format => formatRuns
  | .surrogate => [(0xd800, 0xdfff)]
  | .privateUse => [(0xe000, 0xf8ff), (0xf0000, 0xffffd), (0x100000, 0x10fffd)]
  | .unassigned => []

/-- The letters with case. -/
def casedLetters : List Category := [.uppercase, .lowercase, .titlecase]

def letters : List Category := casedLetters ++ [.modifierLetter, .otherLetter]

def marks : List Category := [.nonspacingMark, .spacingMark, .enclosingMark]

def numbers : List Category := [.decimalNumber, .letterNumber, .otherNumber]

def punctuation : List Category :=
  [.connector, .dash, .openBracket, .closeBracket, .initialQuote, .finalQuote, .otherPunctuation]

def symbols : List Category := [.mathSymbol, .currencySymbol, .modifierSymbol, .otherSymbol]

def separators : List Category := [.space, .lineSeparator, .paragraphSeparator]

/-- The categories of what is no character to be seen. -/
def others : List Category := [.control, .format, .surrogate, .privateUse, .unassigned]

def all : List Category :=
  letters ++ marks ++ numbers ++ punctuation ++ symbols ++ separators ++ others

def has (category : Category) (c : Char) : Bool :=
  match category with
  | .unassigned => !all.any fun other => inRuns other.runs c
  | listed => inRuns listed.runs c

end Category

/-- Whether a character belongs to one of some categories. -/
def isIn (categories : List Category) (c : Char) : Bool := categories.any fun k => k.has c

end Text
end CountedConfig
