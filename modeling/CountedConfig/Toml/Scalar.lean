/-
TOML values that are one word: booleans, numbers, dates and times, and strings.
-/
import CountedConfig.Toml.Moment
import CountedConfig.Toml.Quotation

namespace CountedConfig
namespace Toml

/-- A value that holds no others. -/
inductive Scalar where
  | string (text : Text)
  /-- A whole number, or nothing for one that 128 bits cannot hold. -/
  | integer (n : Option Int)
  /-- A float by its spelling, without underscores. -/
  | float (spelling : Text)
  | boolean (b : Bool)
  | moment (spelling : Text)
  deriving DecidableEq, Repr

namespace Lexeme

/-- A fault of a part of a lexeme. -/
def fault {α : Type} (l : Lexeme) (fault : Fault) (start stop : Nat) : Except Error α :=
  .error ⟨fault, some ⟨l.start + start, l.start + stop⟩⟩

/-- What is said of a word that is no value: its quotes are missing, or the opening
ones are. -/
def notQuoted {α : Type} (l : Lexeme) : Except Error α :=
  let closing := [Quotes.literalLines, .basicLines, .literal, .basic].find? fun q =>
    q.delimiter.isSuffixOf l.text
  match closing with
  | some q => l.fault (.openingMissing q) 0 0
  | none => l.fault .unquoted 0 l.text.length

/-! ### Underscores -/

/-- How far on the first underscore is that does not stand between two digits.  Given is
whether a digit is in front. -/
def strayUnderscore? (isDigit : Char → Bool) : (isAfterDigit : Bool) → Text → Option Nat
  | _, [] => none
  | isAfterDigit, c :: rest =>
    if c = '_' && !(isAfterDigit && (rest.head?).any isDigit) then some 0
    else (strayUnderscore? isDigit (isDigit c) rest).map (· + 1)

/-- Checks that the underscores of a number, from a place in it on, stand between
digits. -/
def checkUnderscores (l : Lexeme) (isDigit : Char → Bool) (start : Nat) : Except Error Unit :=
  match strayUnderscore? isDigit false (l.text.drop start) with
  | some more => l.fault .underscore (start + more) (start + more + 1)
  | none => .ok ()

def withoutUnderscores (t : Text) : Text := t.filter (· != '_')

/-- A digit of any base. -/
def isAnyDigit (c : Char) : Bool := (Text.hexValue? c).isSome

/-! ### Numbers -/

/-- A number that 128 bits can hold, with a sign or without. -/
def fitting (n : Int) : Option Int :=
  if -0x80000000000000000000000000000000 ≤ n ∧ n < 0x100000000000000000000000000000000 then some n
  else none

/-- The number that digits of a base denote. -/
def inBase? (base : Nat) (digits : Text) : Option Int :=
  if digits ≠ [] ∧ digits.all (fun c => (Text.hexValue? c).any (· < base)) then
    some (Text.inBase base digits)
  else none

/-- A whole number in decimal digits, from the sign on. -/
def wholeNumber (t : Text) : Option Int :=
  let n? := match t with
    | '-' :: rest => (inBase? 10 rest).map Neg.neg
    | '+' :: rest => inBase? 10 rest
    | _ => inBase? 10 t
  n?.bind fitting

/-- Checks that a number from a place on does not begin with a zero that means
nothing. -/
def checkLeadingZero (l : Lexeme) (start digits : Nat) : Except Error Unit :=
  if l.text[start]? = some '0' ∧ 1 < digits then l.fault .leadingZero start (start + 1)
  else .ok ()

/-- Checks the digits of a part of a float from a place on, and gives the place behind
them. -/
def floatDigits (l : Lexeme) (part : FloatPart) (start : Nat) : Except Error Nat := do
  let run := (l.text.drop start).takeWhile fun c => c.isDigit || c == '_'
  let digits := withoutUnderscores run
  if digits = [] then l.fault (.digitsMissing part) start start
  if part = .mantissa then l.checkLeadingZero start digits.length
  return start + run.length

/-- A float, whose mantissa begins at the given place. -/
def float (l : Lexeme) (start : Nat) : Except Error Scalar := do
  let place ← l.floatDigits .mantissa start
  let place ← if l.text[place]? = some '.' then l.floatDigits .fraction (place + 1) else pure place
  let place ← if (l.text[place]?).any fun c => c == 'e' || c == 'E' then
      let isSigned := (l.text[place + 1]?).any fun c => c == '+' || c == '-'
      l.floatDigits .exponent (if isSigned then place + 2 else place + 1)
    else pure place
  if place < l.text.length then l.fault .floatInvalid place l.text.length
  l.checkUnderscores Char.isDigit 0
  return .float (withoutUnderscores l.text)

/-- A base by the letter behind a zero. -/
def base? (c : Char) : Option Base :=
  match c with
  | 'x' | 'X' => some .hexadecimal
  | 'o' | 'O' => some .octal
  | 'b' | 'B' => some .binary
  | 'd' | 'D' => some .decimal
  | _ => none

/-- A whole number with a base, from its zero on. -/
def based (l : Lexeme) (base : Base) (start : Nat) : Except Error Scalar := do
  let size := match base with
    | .binary => 2
    | .octal => 8
    | .decimal => 10
    | .hexadecimal => 16
  let digits := l.text.drop (start + 2)
  if 0 < start then l.fault .signOfBased 0 1
  if base = .decimal then l.fault .prefixRedundant start (start + 2)
  if (l.text[start + 1]?).any Char.isUpper then l.fault (.prefixUpper base) start (start + 2)
  if digits.head? = some '+' ∨ digits.head? = some '-' then
    l.fault .signMisplaced (start + 2) (start + 3)
  let valid := (digits.takeWhile fun c => c == '_' || (Text.hexValue? c).any (· < size)).length
  if valid < digits.length then
    l.fault (.digitInvalid base) (start + 2 + valid) (start + 2 + valid)
  l.checkUnderscores isAnyDigit (start + 2)
  return .integer ((inBase? size (withoutUnderscores digits)).bind fitting)

def moment (l : Lexeme) : Except Error Scalar :=
  match Moment.flaw? l.text with
  | some flaw => l.fault (.momentInvalid flaw.part flaw.awaited) 0 l.text.length
  | none => .ok (.moment l.text)

/-- Whether digits at the front have a hyphen or a colon behind them. -/
def looksLikeMoment (t : Text) : Bool :=
  (t.head?).any Char.isDigit &&
    ((t.dropWhile Char.isDigit).head?).any fun c => c == '-' || c == ':'

/-- A number, from the place behind its sign on, or a date or a time. -/
def number (l : Lexeme) (start : Nat) : Except Error Scalar := do
  let t := l.text.drop start
  let base := match t with
    | '0' :: c :: _ => base? c
    | _ => none
  if let some base := base then l.based base start
  else
    let rest := t.dropWhile Char.isDigit
    if looksLikeMoment t then l.moment
    else if rest.any fun c => c == '.' || c == 'e' || c == 'E' then l.float start
    else if rest = [] ∨ rest.head? = some '_' then
      l.checkLeadingZero start t.length
      l.checkUnderscores isAnyDigit 0
      return .integer (wholeNumber (withoutUnderscores l.text))
    else l.notQuoted

/-! ### Words -/

/-- A word that stands for a value of its own, by its first letter. -/
def symbol? (c : Char) : Option (Symbol × Scalar) :=
  match c with
  | 't' | 'T' => some (.true, .boolean true)
  | 'f' | 'F' => some (.false, .boolean false)
  | 'i' | 'I' => some (.infinity, .float "inf".toList)
  | 'n' | 'N' => some (.nan, .float "nan".toList)
  | _ => none

/-- A word without quotes, from the place behind its sign on. -/
def wordFrom (l : Lexeme) (start : Nat) : Except Error Scalar :=
  match l.text[start]? with
  | none => l.notQuoted
  | some c =>
    if c.isDigit || c == '_' then l.number start
    else if c = '.' then l.fault (.digitsMissing .mantissa) 0 0
    else
      match symbol? c with
      | some (symbol, value) =>
        if 0 < start && symbol.kind != Symbol.infinity.kind then l.notQuoted
        else if l.text.drop start = symbol.spelling then
          match value with
          | .float _ => .ok (.float l.text)
          | _ => .ok value
        else l.fault (.symbolMisspelled symbol) start l.text.length
      | none => l.notQuoted

/-- The value that a word without quotes stands for.  Only a date may have a blank in
it. -/
def word (l : Lexeme) : Except Error Scalar :=
  let isSign := fun c : Char => c == '+' || c == '-'
  if l.text.contains ' ' && !looksLikeMoment l.text then l.notQuoted
  else if (l.text.head?).any isSign then
    if (l.text[1]?).any isSign then l.fault .signRepeated 1 2 else l.wordFrom 1
  else l.wordFrom 0

def scalar (l : Lexeme) : Except Error Scalar :=
  match l.quotes with
  | some q => (l.string q).map Scalar.string
  | none => l.word

end Lexeme

namespace Scalar

/-! ### Floats -/

/-- The digits and the exponent of a float without its sign, or nothing when it is one
of the special values. -/
def decimal? (t : Text) : Option (Text × Int) :=
  let t := t.dropWhile fun c => c == '+' || c == '-'
  let isMark := fun c : Char => c == 'e' || c == 'E'
  let mantissa := t.takeWhile fun c => !isMark c
  let exponent := (t.dropWhile fun c => !isMark c).tail
  if !(mantissa.head?).any Char.isDigit then none
  else
    let fraction := (mantissa.dropWhile (· != '.')).tail
    let power : Int := match exponent with
      | '-' :: digits => -(Text.toNat digits : Int)
      | '+' :: digits => (Text.toNat digits : Int)
      | digits => (Text.toNat digits : Int)
    some (mantissa.takeWhile (· != '.') ++ fraction, power - (fraction.length : Int))

/-- Whether 64 bits can hold a decimal number as a finite float, which the nearest
one to it has to be: the number is below the greatest finite float and half the gap
that would lie above it.  Leading zeros aside, the count of digits and the exponent
settle all but the numbers that have 309 digits before the point. -/
def isFinite (digits : Text) (exponent : Int) : Bool :=
  let digits := digits.dropWhile (· == '0')
  let places := (digits.length : Int) + exponent
  if digits = [] || places ≤ 308 then true
  else if 309 < places then false
  else
    Text.toNat digits * Nat.pow 10 exponent.toNat <
      (Nat.pow 2 1024 - Nat.pow 2 970) * Nat.pow 10 (-exponent).toNat

/-- The number that is too great for its type, if the value is one. -/
def overflow? (s : Scalar) : Option Fault :=
  match s with
  | .integer none => some .integerOverflow
  | .float spelling =>
    match decimal? spelling with
    | some (digits, exponent) => if isFinite digits exponent then none else some .floatOverflow
    | none => none
  | _ => none

/-- What a value is called where another one is in its place. -/
def kind : Scalar → Closed
  | .string _ => .string
  | .integer _ => .integer
  | .float _ => .float
  | .boolean _ => .boolean
  | .moment _ => .datetime

end Scalar
end Toml
end CountedConfig
