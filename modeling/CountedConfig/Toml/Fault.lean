/-
What can be wrong with a TOML document, and how it is told.

An error is told with the line of the document that it is on, in which the place at
fault is underlined.
-/
import CountedConfig.Text.Span
import CountedConfig.Text.Utf8
import CountedConfig.Toml.Token

namespace CountedConfig
namespace Toml

/-- What comes next in a table in braces. -/
inductive Awaited where
  | key
  | equals
  | value
  | comma
  deriving DecidableEq, Repr

namespace Awaited

def message : Awaited → Text
  | .key => "key".toList
  | .equals => "`=`".toList
  | .value => "value".toList
  | .comma => "`,`".toList

end Awaited

inductive Base where
  | binary
  | octal
  | decimal
  | hexadecimal
  deriving DecidableEq, Repr

inductive FloatPart where
  | mantissa
  | fraction
  | exponent
  deriving DecidableEq, Repr

inductive Symbol where
  | true
  | false
  | infinity
  | nan
  deriving DecidableEq, Repr

namespace Symbol

def spelling : Symbol → Text
  | .true => "true".toList
  | .false => "false".toList
  | .infinity => "inf".toList
  | .nan => "nan".toList

/-- What the word would have been. -/
def kind : Symbol → Text
  | .true | .false => "boolean".toList
  | .infinity | .nan => "float".toList

end Symbol

inductive MomentPart where
  | date
  | time
  | joint
  | offset
  deriving DecidableEq, Repr

namespace MomentPart

def message : MomentPart → Text
  | .date => "date".toList
  | .time => "time".toList
  | .joint => "date-time".toList
  | .offset => "offset".toList

end MomentPart

/-- The values that cannot be taken for a table to extend. -/
inductive Closed where
  | string
  | integer
  | float
  | boolean
  | datetime
  | array
  | inlineTable
  deriving DecidableEq, Repr

namespace Closed

def message : Closed → Text
  | .string => "string".toList
  | .integer => "integer".toList
  | .float => "float".toList
  | .boolean => "boolean".toList
  | .datetime => "datetime".toList
  | .array => "array".toList
  | .inlineTable => "inline table".toList

end Closed

inductive Fault where
  -- Lines
  | commentCharacter
  | carriageReturn
  | extraContent
  | pairWithoutKey
  | keyWithoutValue
  /-- A key that begins with a dot has no value. -/
  | dottedWithoutValue
  | headerUnopened
  | headerUnclosed
  | arrayHeaderUnclosed (missing : Nat)
  -- Values
  | extraEquals
  | arrayUnopened
  | arrayUnclosed
  | extraCommaInArray
  | missingCommaInArray
  | equalsInArray
  | tableUnopened
  | tableUnclosed
  | extraCommaInTable (awaited : Awaited)
  | missingCommaInTable
  | extraEqualsInTable (awaited : Awaited)
  | missingEquals
  | missingKey (awaited : Awaited)
  | strayBracket (awaited : Awaited)
  | tooDeep
  -- Keys
  | keyEmpty
  | keyCharacter
  | keyOverLines (quotes : Quotes)
  | keyTooLong
  -- Strings
  | unclosed (quotes : Quotes)
  | stringCharacter (quotes : Quotes)
  | unfinishedFold
  | escapeUnknown
  | escapeDigits
  | escapeValue
  -- Other values
  | unquoted
  | openingMissing (quotes : Quotes)
  | symbolMisspelled (symbol : Symbol)
  | signRepeated
  | signOfBased
  | signMisplaced
  | prefixUpper (base : Base)
  | prefixRedundant
  | digitInvalid (base : Base)
  | underscore
  | leadingZero
  | digitsMissing (part : FloatPart)
  | floatInvalid
  | momentInvalid (part : Option MomentPart) (awaited : String)
  | integerOverflow
  | floatOverflow
  -- Tables
  | duplicate
  | notExtensible (value : Closed)
  -- Values under known keys
  | wrongType (found awaited : Text)
  deriving DecidableEq, Repr

namespace Quotes

/-- The kind of string that the quotes make. -/
def message : Quotes → Text
  | .basic => "basic string".toList
  | .literal => "literal string".toList
  | .basicLines => "multi-line basic string".toList
  | .literalLines => "multi-line literal string".toList

end Quotes

namespace Fault

def message : Fault → Text
  | .commentCharacter => "invalid comment character, expected printable characters".toList
  | .carriageReturn => "carriage return must be followed by newline, expected newline".toList
  | .extraContent => "unexpected key or value, expected newline, `#`".toList
  | .pairWithoutKey => "invalid key-value pair, expected key".toList
  | .keyWithoutValue => "key with no value, expected `=`".toList
  | .dottedWithoutValue => "missing value for key, expected `=`".toList
  | .headerUnopened => "missing table open, expected `[`".toList
  | .headerUnclosed => "unclosed table, expected `]`".toList
  | .arrayHeaderUnclosed missing =>
    "unclosed array table, expected `".toList ++ List.replicate missing ']' ++ ['`']
  | .extraEquals => "extra `=`, expected nothing".toList
  | .arrayUnopened => "missing array opening, expected `[`".toList
  | .arrayUnclosed => "unclosed array, expected `]`".toList
  | .extraCommaInArray => "extra comma in array, expected value".toList
  | .missingCommaInArray => "missing comma between array elements, expected `,`".toList
  | .equalsInArray => "unexpected `=` in array, expected value, `]`".toList
  | .tableUnopened => "missing inline table opening, expected `\x7b`".toList
  | .tableUnclosed => "unclosed inline table, expected `\x7d`".toList
  | .extraCommaInTable awaited =>
    "extra comma in inline table, expected ".toList ++ awaited.message
  | .missingCommaInTable => "missing comma between key-value pairs, expected `,`".toList
  | .extraEqualsInTable awaited =>
    "extra assignment between key-value pairs, expected ".toList ++ awaited.message
  | .missingEquals => "missing assignment between key-value pairs, expected `=`".toList
  | .missingKey awaited =>
    "missing key for inline table element, expected ".toList ++ awaited.message
  | .strayBracket awaited =>
    "invalid inline table element, expected ".toList ++ awaited.message
  | .tooDeep => "cannot recurse further; max recursion depth met".toList
  | .keyEmpty =>
    "unquoted keys cannot be empty, expected letters, numbers, `-`, `_`".toList
  | .keyCharacter => "invalid unquoted key, expected letters, numbers, `-`, `_`".toList
  | .keyOverLines quotes =>
    "keys cannot be ".toList ++ quotes.message ++ "s, expected basic string, literal string".toList
  | .keyTooLong => "recursion limit".toList
  | .unclosed quotes =>
    "invalid ".toList ++ quotes.message ++ ", expected `".toList ++ [quotes.mark, '`']
  | .stringCharacter quotes =>
    "invalid ".toList ++ quotes.message ++ ", expected ".toList ++
      match quotes with
      | .basic => "non-double-quote visible characters, `\\`".toList
      | .literal => "non-single-quote visible characters".toList
      | .basicLines => "`\\`, characters".toList
      | .literalLines => "non-single-quote characters".toList
  | .unfinishedFold => "invalid multi-line basic string, expected newline".toList
  | .escapeUnknown =>
    ("missing escaped value, expected `b`, `e`, `f`, `n`, `r`, `\\`, `\"`, `x`, `u`, " ++
      "`U`").toList
  | .escapeDigits =>
    "too few unicode value digits, expected unicode hexadecimal value".toList
  | .escapeValue => "invalid value, expected unicode hexadecimal value".toList
  | .unquoted => "string values must be quoted, expected literal string".toList
  | .openingMissing quotes =>
    "missing opening quote, expected `".toList ++ quotes.delimiter ++ ['`']
  | .symbolMisspelled symbol =>
    "invalid ".toList ++ symbol.kind ++ ", expected `".toList ++ symbol.spelling ++ ['`']
  | .signRepeated => "redundant numeric sign, expected nothing".toList
  | .signOfBased => "integers with a radix cannot be signed, expected nothing".toList
  | .signMisplaced => "unexpected sign, expected nothing".toList
  | .prefixUpper base =>
    "radix must be lowercase, expected `0".toList ++
      match base with
      | .binary => "b`".toList
      | .octal => "o`".toList
      | .decimal => "d`".toList
      | .hexadecimal => "x`".toList
  | .prefixRedundant => "redundant integer number prefix, expected nothing".toList
  | .digitInvalid base =>
    "invalid ".toList ++
      match base with
      | .binary => "binary number".toList
      | .octal => "octal number".toList
      | .decimal => "integer number".toList
      | .hexadecimal => "hexadecimal number".toList
  | .underscore => "`_` may only go between digits, expected nothing".toList
  | .leadingZero => "unexpected leading zero, expected nothing".toList
  | .digitsMissing part =>
    "invalid ".toList ++
      (match part with
        | .mantissa => "mantissa".toList
        | .fraction => "fraction".toList
        | .exponent => "exponent".toList) ++ ", expected digits".toList
  | .floatInvalid => "invalid float, expected nothing".toList
  | .momentInvalid part awaited =>
    "invalid ".toList ++
      (match part with
        | some part => part.message
        | none => "datetime".toList) ++
      if awaited = "" then [] else ", expected ".toList ++ awaited.toList
  | .integerOverflow => "integer number overflowed".toList
  | .floatOverflow => "floating-point number overflowed".toList
  | .duplicate => "duplicate key".toList
  | .notExtensible value =>
    "cannot extend value of type ".toList ++ value.message ++ " with a dotted key".toList
  | .wrongType found awaited =>
    "invalid type: ".toList ++ found ++ ", expected ".toList ++ awaited

end Fault

/-- A fault, and where in the document it is.  That a key is too long is told without a
place. -/
structure Error where
  fault : Fault
  span : Option Span
  deriving DecidableEq, Repr

namespace Error

/-- The line and the column of a place, both counted from nothing.  Behind the last
character of a document it is the column behind that character.  The column of a
character beyond ASCII is counted in bytes. -/
def position (document : Text) (place : Nat) : Nat × Nat :=
  let safe := min place (document.length - 1)
  let (line, column) := document.locate safe
  let isAscii := fun c : Char => c.toNat < 0x80
  let column :=
    if place = safe && !(document[safe]?).all isAscii then
      (Text.encode ((document.take safe).drop (safe - column))).length
    else column
  (line, column + (place - safe))

/-- The lines that show where an error is: its line and column, and the line itself
with marks below. -/
def notes (document : Text) (s : Span) : List Text :=
  let (line, column) := position document s.start
  let number := Text.ofNat (line + 1)
  let margin := List.replicate (number.length + 1) ' ' ++ ['|']
  let content := (document.splitOn '\n').getD line []
  let width := (Text.encode ((document.take s.stop).drop s.start)).length
  let room := (Text.encode content).length - column
  [("TOML parse error at line ".toList ++ number ++ ", column ".toList ++ Text.ofNat (column + 1)),
    margin,
    number ++ " | ".toList ++ content,
    margin ++ List.replicate (column + 1) ' ' ++ List.replicate (max 1 (min width room)) '^']

def message (document : Text) (e : Error) : Text :=
  let notes := match e.span with
    | some s => notes document s
    | none => []
  Text.ofLines (notes ++ [e.fault.message])

end Error
end Toml
end CountedConfig
