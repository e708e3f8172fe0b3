/-
The operators that stand between a key and its value.

A line assigns in one of four forms.  Two of them count: `:3L=` says that the
value takes three lines, `:3C=` that it takes three characters.  The other two
take the rest of the line, `:=` as it stands and `=` trimmed and unquoted.
`Form.operator?` reads an operator at the front of a text and gives back what
follows it.
-/
import CountedConfig.Text

namespace CountedConfig

/-- What a count counts. -/
inductive CountUnit where
  | lines
  | characters
  deriving DecidableEq, Repr

inductive Form where
  | counted (unit : CountUnit)
  | raw
  | simple
  deriving DecidableEq, Repr

inductive Operator where
  | counted (unit : CountUnit) (count : Nat)
  | raw
  | simple
  deriving DecidableEq, Repr

/-- Counts are held in 64 bits.  A larger one is cut to the largest, since no
input is long enough to tell the two apart. -/
def maxCount : Nat := UInt64.size - 1

namespace CountUnit

/-- The letter that names the unit in an operator, in either case. -/
def isLetter : CountUnit → Char → Bool
  | .lines, c => c == 'l' || c == 'L'
  | .characters, c => c == 'c' || c == 'C'

end CountUnit

/-- A count at the front of a text: decimal digits, the first of them not zero. -/
def readCount? : Text → Option (Nat × Text)
  | [] => none
  | c :: rest =>
    if c.isDigit && c != '0' then
      some (min maxCount (Text.toNat ((c :: rest).takeWhile Char.isDigit)),
        (c :: rest).dropWhile Char.isDigit)
    else none

namespace Form

/-- The forms in the order in which a line is held against them. -/
def byPriority : List Form := [.counted .lines, .counted .characters, .raw, .simple]

/-- The operator of this form at the front of a text, and what follows it. -/
def operator? : Form → Text → Option (Operator × Text)
  | .counted unit, ':' :: rest =>
    match readCount? rest with
    | some (count, letter :: '=' :: tail) =>
      if unit.isLetter letter then some (.counted unit count, tail) else none
    | _ => none
  | .raw, ':' :: '=' :: tail => some (.raw, tail)
  | .simple, '=' :: tail => some (.simple, tail)
  | _, _ => none

end Form
end CountedConfig
