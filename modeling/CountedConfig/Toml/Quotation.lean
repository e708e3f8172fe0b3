/-
Quoted text in TOML: basic strings between double quotes, in which a backslash
escapes, and literal strings between single quotes, in which nothing does.  Three
quotes open a string that may run over lines.
-/
import CountedConfig.Text.Digits
import CountedConfig.Toml.Outline

namespace CountedConfig
namespace Toml

/-- The character that one letter behind a backslash stands for. -/
def escape? (c : Char) : Option Char :=
  match c with
  | 'b' => some '\x08'
  | 'e' => some '\x1b'
  | 't' => some '\t'
  | 'n' => some '\n'
  | 'f' => some '\x0c'
  | 'r' => some '\r'
  | '"' => some '"'
  | '\\' => some '\\'
  | _ => none

/-- The number of digits behind the letters that announce a code point. -/
def codePointLength? (c : Char) : Option Nat :=
  match c with
  | 'x' => some 2
  | 'u' => some 4
  | 'U' => some 8
  | _ => none

/-- Where the reading of a string stands. -/
inductive Within where
  | text
  | escape
  /-- Inside an escape by code point, with so many digits to come.  The digits begin at
  the given place. -/
  | digits (start left value : Nat)
  /-- In the blanks behind a backslash at the end of a line, before or behind the
  end itself. -/
  | fold (ended : Bool)

/-- The fault of a string at a place in it. -/
def faultAt {α : Type} (fault : Fault) (place : Nat) : Except Error α :=
  .error ⟨fault, some (.point place)⟩

/-- What a character comes to. -/
inductive Move where
  /-- It stands for a character of the string. -/
  | stands (c : Char)
  | onward (within : Within)
  | fault (fault : Fault) (place : Nat)

namespace Move

/-- A carriage return, behind which a newline has to be. -/
def lineEnd (move : Move) (place : Nat) (next : Option Char) : Move :=
  if next = some '\n' then move else .fault .carriageReturn (place + 1)

/-- A character that can stand for itself. -/
def own (q : Quotes) (place : Nat) (c : Char) : Move :=
  if c == '\\' && q.escapes then .onward .escape
  else if isOrdinary c || (q.isOverLines && c == '\n') then .stands c
  else .fault (.stringCharacter q) place

/-- The move of a character at a place, from the reading so far and the next character. -/
def of (q : Quotes) (within : Within) (place : Nat) (c : Char) (next : Option Char) : Move :=
  match within with
  | .digits start left value =>
    match Text.hexValue? c with
    | none => .fault .escapeDigits place
    | some d =>
      if left ≤ 1 then
        match Text.char? (16 * value + d) with
        | some c => .stands c
        | none => .fault .escapeValue start
      else .onward (.digits start (left - 1) (16 * value + d))
  | .escape =>
    match escape? c, codePointLength? c with
    | some c, _ => .stands c
    | none, some length => .onward (.digits (place + 1) length 0)
    | none, none =>
      if q.isOverLines && (c == ' ' || c == '\t' || c == '\n') then .onward (.fold (c == '\n'))
      else if q.isOverLines && c == '\r' then lineEnd (.onward (.fold false)) place next
      else .fault .escapeUnknown place
  | .fold ended =>
    if c == ' ' || c == '\t' then .onward (.fold ended)
    else if c == '\n' then .onward (.fold true)
    else if c == '\r' then lineEnd (.onward (.fold ended)) place next
    else if ended then own q place c
    else .fault .unfinishedFold place
  | .text =>
    if c == '\r' && q.isOverLines then lineEnd (.stands c) place next
    else own q place c

end Move

/-- The text between the quotes of a string, which begins at the given place. -/
def unquoted (q : Quotes) : Within → (place : Nat) → Text → Except Error Text
  | .text, _, [] => .ok []
  | .escape, place, [] => faultAt .escapeUnknown place
  | .digits .., place, [] => faultAt .escapeDigits place
  | .fold ended, place, [] => if ended then .ok [] else faultAt .unfinishedFold place
  | within, place, c :: rest =>
    match Move.of q within place c rest.head? with
    | .stands c => (unquoted q .text (place + 1) rest).map (c :: ·)
    | .onward within => unquoted q within (place + 1) rest
    | .fault fault place => faultAt fault place

namespace Lexeme

/-- The text that a string stands for.  The end of a line that follows the opening
quotes of a string over lines is no part of it. -/
def string (q : Quotes) (l : Lexeme) : Except Error Text :=
  let width := q.delimiter.length
  if l.text.length < 2 * width || !q.delimiter.isSuffixOf l.text then
    faultAt (.unclosed q) l.span.stop
  else
    let start := l.start + width
    match q.isOverLines, (l.text.drop width).take (l.text.length - 2 * width) with
    | true, '\n' :: rest => unquoted q .text (start + 1) rest
    | true, '\r' :: '\n' :: rest => unquoted q .text (start + 2) rest
    | _, content => unquoted q .text start content

end Lexeme
end Toml
end CountedConfig
