/-
What can be wrong with a pattern, and how it is told.

An error is told with the pattern itself, in which the places at fault are
underlined.
-/
import CountedConfig.Text.Span

namespace CountedConfig
namespace Pattern

inductive Fault where
  | classEscapeInvalid
  | classRangeInvalid
  | classRangeLiteral
  | classUnclosed
  | decimalInvalid
  | hexEmpty
  | hexInvalid
  | hexDigitInvalid
  | escapeUnfinished
  | escapeUnrecognized
  | flagNegationDangling
  | flagDuplicate
  | flagNegationRepeated
  | flagMissing
  | flagUnrecognized
  | nameDuplicate
  | nameEmpty
  | nameInvalid
  | nameUnclosed
  | groupUnclosed
  | groupUnopened
  | countInvalid
  | countEmpty
  | countUnclosed
  | repetitionMissing
  | wordEdgeUnclosed
  | wordEdgeUnrecognized
  | wordEdgeOrCountUnclosed
  | propertyInvalid
  | backreference
  | lookAround
  | tooDeep (limit : Nat)
  | unicodeNotAllowed
  | invalidUtf8
  | propertyNotFound
  | propertyValueNotFound
  deriving DecidableEq, Repr

namespace Fault

def message : Fault → Text
  | .classEscapeInvalid => "invalid escape sequence found in character class".toList
  | .classRangeInvalid =>
    "invalid character class range, the start must be <= the end".toList
  | .classRangeLiteral => "invalid range boundary, must be a literal".toList
  | .classUnclosed => "unclosed character class".toList
  | .decimalInvalid => "decimal literal invalid".toList
  | .hexEmpty => "hexadecimal literal empty".toList
  | .hexInvalid => "hexadecimal literal is not a Unicode scalar value".toList
  | .hexDigitInvalid => "invalid hexadecimal digit".toList
  | .escapeUnfinished =>
    "incomplete escape sequence, reached end of pattern prematurely".toList
  | .escapeUnrecognized => "unrecognized escape sequence".toList
  | .flagNegationDangling => "dangling flag negation operator".toList
  | .flagDuplicate => "duplicate flag".toList
  | .flagNegationRepeated => "flag negation operator repeated".toList
  | .flagMissing => "expected flag but got end of regex".toList
  | .flagUnrecognized => "unrecognized flag".toList
  | .nameDuplicate => "duplicate capture group name".toList
  | .nameEmpty => "empty capture group name".toList
  | .nameInvalid => "invalid capture group character".toList
  | .nameUnclosed => "unclosed capture group name".toList
  | .groupUnclosed => "unclosed group".toList
  | .groupUnopened => "unopened group".toList
  | .countInvalid => "invalid repetition count range, the start must be <= the end".toList
  | .countEmpty => "repetition quantifier expects a valid decimal".toList
  | .countUnclosed => "unclosed counted repetition".toList
  | .repetitionMissing => "repetition operator missing expression".toList
  | .wordEdgeUnclosed =>
    "special word boundary assertion is either unclosed or contains an invalid character".toList
  | .wordEdgeUnrecognized =>
    ("unrecognized special word boundary assertion, valid choices are: start, end, " ++
      "start-half or end-half").toList
  | .wordEdgeOrCountUnclosed =>
    ("found either the beginning of a special word boundary or a bounded repetition " ++
      "on a \\b with an opening brace, but no closing brace").toList
  | .propertyInvalid => "invalid Unicode character class".toList
  | .backreference => "backreferences are not supported".toList
  | .lookAround => "look-around, including look-ahead and look-behind, is not supported".toList
  | .tooDeep limit =>
    "exceed the maximum number of nested parentheses/brackets (".toList ++ Text.ofNat limit ++ [')']
  | .unicodeNotAllowed => "Unicode not allowed here".toList
  | .invalidUtf8 => "pattern can match invalid UTF-8".toList
  | .propertyNotFound => "Unicode property not found".toList
  | .propertyValueNotFound => "Unicode property value not found".toList

end Fault

/-- A fault, where it is, and the earlier part of the pattern that it is at odds with. -/
structure Error where
  fault : Fault
  span : Span
  earlier : Option Span
  deriving DecidableEq, Repr

namespace Error

/-- The lines of a pattern, without an empty one at the end.  A carriage return in
front of a newline belongs to the end of its line. -/
def lines (pattern : Text) : List Text :=
  let pieces := pattern.splitOn '\n'
  let ended := pieces.dropLast.map fun line =>
    if line.getLast? = some '\r' then line.dropLast else line
  ended ++ (pieces.getLast?.toList.filter (· ≠ []))

/-- Marks under the columns of some spans, each from its start to its end and one
mark wide at least. -/
def underline : (column : Nat) → List (Nat × Nat) → Text
  | _, [] => []
  | column, (start, stop) :: more =>
    let width := max 1 (stop - start)
    List.replicate (start - column) ' ' ++ List.replicate width '^' ++
      underline (max column start + width) more

/-- The parts of the pattern at issue, the first in the pattern first. -/
def spans (e : Error) : List Span :=
  match e.earlier with
  | none => [e.span]
  | some earlier => if earlier.start ≤ e.span.start then [earlier, e.span] else [e.span, earlier]

/-- A line of the pattern behind its margin, and below it the marks for the spans that
lie on it. -/
def lineNotes (pattern : Text) (e : Error) (margin line : Text) (number : Nat) : List Text :=
  let columns := e.spans.filterMap fun s =>
    let (first, start) := pattern.locate s.start
    let (last, stop) := pattern.locate s.stop
    if first = last ∧ first = number then some (start, stop) else none
  (margin ++ line) ::
    if columns = [] then []
    else [List.replicate margin.length ' ' ++ underline 0 columns]

/-- A note for each span that runs over several lines. -/
def spanNotes (pattern : Text) (e : Error) : List Text :=
  let notes := e.spans.filterMap fun s =>
    let (first, start) := pattern.locate s.start
    let (last, stop) := pattern.locate s.stop
    if first = last then none
    else some ("on line ".toList ++ Text.ofNat (first + 1) ++ " (column ".toList ++
      Text.ofNat (start + 1) ++ ") through line ".toList ++ Text.ofNat (last + 1) ++
      " (column ".toList ++ Text.ofNat stop ++ [')'])
  if notes = [] then [] else [List.intercalate ['\n'] notes]

/-- The lines of the pattern with their numbers, which a pattern of one line has
none of. -/
def notes (pattern : Text) (e : Error) : List Text :=
  let lines := lines pattern
  let count := lines.length + if pattern.getLast? = some '\n' then 1 else 0
  let width := (Text.ofNat count).length
  let margin := fun number : Nat =>
    if count ≤ 1 then "    ".toList
    else
      let digits := Text.ofNat (number + 1)
      List.replicate (width - digits.length) ' ' ++ digits ++ ": ".toList
  (lines.zipIdx.map fun (line, number) => e.lineNotes pattern (margin number) line number).flatten

def message (pattern : Text) (e : Error) : Text :=
  let notes := e.notes pattern
  let divider := List.replicate 79 '~'
  let body :=
    if pattern.contains '\n' then divider :: notes ++ divider :: e.spanNotes pattern else notes
  Text.ofLines ("regex parse error:".toList :: body) ++ "error: ".toList ++ e.fault.message

end Error
end Pattern
end CountedConfig
