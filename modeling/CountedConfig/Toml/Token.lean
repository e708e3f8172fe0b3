/-
The tokens of a TOML document.

Every text is a row of tokens, so that what is wrong with a document is a matter of
their order and of what single tokens hold.  A string ends with its closing quotes,
or where it has none at the end of its line or of the text.  What is nothing else is
an atom: a bare key, a number, a date or a part of one.
-/
import CountedConfig.Text.Span

namespace CountedConfig
namespace Toml

inductive Quotes where
  /-- Double quotes, in which a backslash escapes. -/
  | basic
  /-- Single quotes, in which nothing escapes. -/
  | literal
  | basicLines
  | literalLines
  deriving DecidableEq, Repr

namespace Quotes

def mark : Quotes → Char
  | .basic | .basicLines => '"'
  | .literal | .literalLines => '\''

/-- Whether the string may run over lines. -/
def isOverLines : Quotes → Bool
  | .basic | .literal => false
  | .basicLines | .literalLines => true

def escapes : Quotes → Bool
  | .basic | .basicLines => true
  | .literal | .literalLines => false

/-- What opens and closes the string. -/
def delimiter (q : Quotes) : Text := List.replicate (if q.isOverLines then 3 else 1) q.mark

end Quotes

inductive TokenKind where
  | dot
  | equals
  | comma
  | openBracket
  | closeBracket
  | openBrace
  | closeBrace
  | blank
  | comment
  /-- A newline, with a carriage return in front or not, or a carriage return alone. -/
  | lineEnd
  | string (quotes : Quotes)
  | atom
  | finish
  deriving DecidableEq, Repr

structure Token where
  kind : TokenKind
  start : Nat
  text : Text
  deriving DecidableEq, Repr

/-- A character that can stand for itself in a comment or a string: anything but a
control, tabs excepted. -/
def isOrdinary (c : Char) : Bool := c == '\t' || (0x20 ≤ c.toNat && c.toNat != 0x7f)

namespace Token

def span (t : Token) : Span := ⟨t.start, t.start + t.text.length⟩

/-- The number of characters of a string behind its opening quotes. -/
def stringLength (q : Quotes) : Text → Nat
  | [] => 0
  | c :: rest =>
    if q.delimiter <+: c :: rest then
      -- Two more quotes at most belong to a string over lines.
      let extra := if q.isOverLines then ((rest.drop 2).takeWhile (· == q.mark)).length else 0
      q.delimiter.length + min extra 2
    else if c = '\n' && !q.isOverLines then 0
    else if c = '\\' && q.escapes then
      match rest with
      | d :: more => if d = '\\' || d = q.mark then stringLength q more + 2 else stringLength q (d :: more) + 1
      | [] => 1
    else stringLength q rest + 1

def quotes? (t : Text) : Option Quotes :=
  [Quotes.basicLines, .literalLines, .basic, .literal].find? fun q => q.delimiter <+: t

/-- A character that an atom does not hold.  Quotes are none: the opening ones may be
missing. -/
def endsAtom (c : Char) : Bool := ".=,[]\x7b\x7d \t#\r\n".toList.contains c

/-- The kind of the token at the front of a text, and its length. -/
def front (t : Text) : TokenKind × Nat :=
  match t with
  | [] => (.finish, 0)
  | '.' :: _ => (.dot, 1)
  | '=' :: _ => (.equals, 1)
  | ',' :: _ => (.comma, 1)
  | '[' :: _ => (.openBracket, 1)
  | ']' :: _ => (.closeBracket, 1)
  | '\x7b' :: _ => (.openBrace, 1)
  | '\x7d' :: _ => (.closeBrace, 1)
  | '\r' :: '\n' :: _ => (.lineEnd, 2)
  | c :: _ =>
    if c = '\n' || c = '\r' then (.lineEnd, 1)
    else if c = ' ' || c = '\t' then (.blank, (t.takeWhile fun c => c == ' ' || c == '\t').length)
    else if c = '#' then (.comment, (t.takeWhile fun c => c != '\n' && c != '\r').length)
    else
      match quotes? t with
      | some q => (.string q, q.delimiter.length + stringLength q (t.drop q.delimiter.length))
      | none => (.atom, (t.takeWhile fun c => !endsAtom c).length)

/-- The tokens of a text behind a number of characters.  Every token takes a character
at least, so the length of the text is bound enough. -/
def row : (bound place : Nat) → Text → List Token
  | 0, place, t => [⟨.finish, place, t⟩]
  | bound + 1, place, t =>
    match front t with
    | (.finish, _) => [⟨.finish, place, []⟩]
    | (kind, length) =>
      ⟨kind, place, t.take length⟩ :: row bound (place + length) (t.drop length)

/-- The tokens of a document, the last of which is its end.  A byte order mark in front
is no part of it. -/
def ofText (t : Text) : List Token :=
  match t.after? '\ufeff' with
  | some rest => row rest.length 1 rest
  | none => row t.length 0 t

end Token
end Toml
end CountedConfig
