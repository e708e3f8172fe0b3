/-
Escapes: what a backslash makes of the characters behind it.
-/
import CountedConfig.Pattern.Reader
import CountedConfig.Text.Digits
import CountedConfig.Unicode.Query

namespace CountedConfig
namespace Pattern

/-- A part of a pattern that stands for one character or for a condition. -/
inductive Atom where
  | char (c : Char)
  | set (s : CharSet)
  | look (l : Look)

/-- The characters that mean something by themselves. -/
def metaCharacters : Text := "\\.+*?()|[]\x7b\x7d^$#&-~".toList

/-- Whether a backslash takes the meaning from a character.  It does so with all of
ASCII but letters, digits and angle brackets. -/
def isEscapable (c : Char) : Bool :=
  metaCharacters.contains c || (c.toNat < 0x80 && !c.isAlphanum && c != '<' && c != '>')

/-- The character that one letter behind a backslash stands for. -/
def control? : Char → Option Char
  | 'a' => some '\x07'
  | 'f' => some '\x0c'
  | 't' => some '\t'
  | 'n' => some '\n'
  | 'r' => some '\r'
  | 'v' => some '\x0b'
  | _ => none

namespace Reader

/-! ### Characters by code point -/

def charOf (digits : Text) (start stop : Nat) : Reader Char :=
  match Text.char? (Text.inBase 16 digits) with
  | some c => return c
  | none => fail .hexInvalid start stop

/-- Digits of base 16, as many as asked for and at least one. -/
def hexDigits : (count : Nat) → Reader Text
  | 0 => return []
  | more + 1 => do
    match (← get).rest with
    | [] => fail .escapeUnfinished (← place) (← place)
    | c :: _ =>
      if (Text.hexValue? c).isSome then
        let _ ← step
        return c :: (← hexDigits more)
      else fail .hexDigitInvalid (← place) ((← place) + 1)

/-- A code point, from the letter on that says how many digits it has when it is not
in braces.  A code point of two digits is a byte where Unicode is off. -/
def codePoint (escape : Nat) (letter : Char) : Reader Char := do
  unless ← step do fail .escapeUnfinished (← place) (← place)
  let start ← place
  if (← peek) = some '\x7b' then
    let _ ← step
    let digits ← takeWhile fun c => (Text.hexValue? c).isSome
    match ← peek with
    | none => fail .escapeUnfinished start (← place)
    | some '\x7d' =>
      let stop ← place
      let _ ← step
      if digits = [] then fail .hexEmpty start (← place)
      charOf digits (start + 1) stop
    | some _ => fail .hexDigitInvalid (← place) ((← place) + 1)
  else
    let digits ← hexDigits (if letter = 'x' then 2 else if letter = 'u' then 4 else 8)
    let stop ← place
    let c ← charOf digits start stop
    if letter = 'x' && 0x80 ≤ c.toNat && !(← flags).unicode then
      defer .invalidUtf8 ⟨escape, stop⟩
    return c

/-! ### Classes -/

/-- A class as it is used: with the other cases, then turned into its complement.
Where Unicode is off a class cannot reach beyond ASCII. -/
def closeClass (folds negated : Bool) (s : CharSet) (span : Span) : Reader CharSet := do
  let f ← flags
  let s := if folds then f.fold s else s
  let s := if negated then .compl s else s
  if !f.unicode && s.contains '\x80' then defer .invalidUtf8 span
  return s

/-- What a query asks for in vain is a fault of meaning. -/
def faultOf : Unicode.Unknown → Fault
  | .property => .propertyNotFound
  | .value => .propertyValueNotFound

/-- The set that a name in braces stands for, or a property and its value between
which an equals sign or a colon stands.  An exclamation mark before the equals sign
makes it the set of what has another value. -/
def ofQuery (query : Text) : Bool × Except Unicode.Unknown Text.Runs :=
  match Text.cut? "!=".toList query, (Text.cut? [':'] query).or (Text.cut? ['='] query) with
  | some (name, value), _ => (true, Unicode.ofNameAndValue name value)
  | none, some (name, value) => (false, Unicode.ofNameAndValue name value)
  | none, none => (false, Unicode.ofName query)

def propertyClass (escape : Nat) (negated : Bool) : Reader CharSet := do
  unless ← step do fail .escapeUnfinished (← place) (← place)
  let query ← if (← peek) = some '\x7b' then
      let _ ← step
      let query ← takeWhile (· != '\x7d')
      if ← atEnd then fail .escapeUnfinished (← place) (← place)
      skip 1
      pure query
    else
      match ← peek with
      | some '\\' => fail .propertyInvalid (← place) ((← place) + 1)
      | c =>
        let _ ← step
        pure c.toList
  let span : Span := ⟨escape, ← place⟩
  if !(← flags).unicode then
    defer .unicodeNotAllowed span
    return .none
  match ofQuery query with
  | (opposite, .ok runs) => closeClass true (negated != opposite) ⟨runs⟩ span
  | (_, .error unknown) =>
    defer (faultOf unknown) span
    return .none

/-! ### Conditions on words -/

/-- A name in braces behind the escape of a word edge, or nothing when the braces hold
a count. -/
def namedEdge (escape : Nat) : Reader (Option Look) := do
  let before ← get
  let start := before.place
  unless ← step do fail .wordEdgeOrCountUnclosed escape (← place)
  let isNameChar := fun c : Char => c.isAlpha || c == '-'
  let inside ← place
  if !(← peek).any isNameChar then
    set before
    return none
  let name ← takeWhile isNameChar
  if (← peek) ≠ some '\x7d' then fail .wordEdgeUnclosed start (← place)
  let stop ← place
  skip 1
  let word := (← flags).word
  if name = "start".toList then return some (.wordStart word)
  else if name = "end".toList then return some (.wordEnd word)
  else if name = "start-half".toList then return some (.notAfterWord word)
  else if name = "end-half".toList then return some (.notBeforeWord word)
  else fail .wordEdgeUnrecognized inside stop

def escape : Reader Atom := do
  let start ← place
  skip 1
  match ← peek with
  | none => fail .escapeUnfinished start (← place)
  | some c =>
    let f ← flags
    let simpleClass := fun (s : CharSet) (negated : Bool) => do
      skip 1
      return Atom.set (← closeClass false negated s ⟨start, ← place⟩)
    match c with
    | 'x' | 'u' | 'U' => return .char (← codePoint start c)
    | 'p' => return .set (← propertyClass start false)
    | 'P' => return .set (← propertyClass start true)
    | 'd' => simpleClass f.digit false
    | 'D' => simpleClass f.digit true
    | 's' => simpleClass f.blank false
    | 'S' => simpleClass f.blank true
    | 'w' => simpleClass f.word false
    | 'W' => simpleClass f.word true
    | _ =>
      skip 1
      if c.isDigit then fail .backreference start (← place)
      else if isEscapable c then return .char c
      else
        match control? c, c with
        | some c, _ => return .char c
        | none, 'A' => return .look .textStart
        | none, 'z' => return .look .textEnd
        | none, 'b' =>
          if (← peek) = some '\x7b' then
            return .look ((← namedEdge start).getD (.wordEdge f.word))
          else return .look (.wordEdge f.word)
        | none, 'B' => return .look (.notWordEdge f.word)
        | none, '<' => return .look (.wordStart f.word)
        | none, '>' => return .look (.wordEnd f.word)
        | none, _ => fail .escapeUnrecognized start (← place)

end Reader
end Pattern
end CountedConfig
