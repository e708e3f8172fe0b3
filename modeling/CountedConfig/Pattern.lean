/-
Patterns, which describe parts of a text.

A pattern is made of characters, sets of them and conditions on the place between two
of them, in rows, choices and repetitions.
-/
import CountedConfig.Pattern.CharSet

namespace CountedConfig

inductive Look where
  | textStart
  | textEnd
  | lineStart
  | lineEnd
  /-- The start of a line where a carriage return ends lines as well, alone or before
  a newline. -/
  | anyLineStart
  | anyLineEnd
  | wordEdge (word : CharSet)
  | notWordEdge (word : CharSet)
  | wordStart (word : CharSet)
  | wordEnd (word : CharSet)
  | notAfterWord (word : CharSet)
  | notBeforeWord (word : CharSet)
  deriving DecidableEq, Repr

namespace Look

/-- Whether the condition holds between two characters, of which there is none at
either end of a text. -/
def holds (look : Look) (before after : Option Char) : Bool :=
  match look with
  | .textStart => before.isNone
  | .textEnd => after.isNone
  | .lineStart => before.all (· == '\n')
  | .lineEnd => after.all (· == '\n')
  | .anyLineStart => before.all fun c => c == '\n' || (c == '\r' && after != some '\n')
  | .anyLineEnd => after.all fun c => c == '\r' || (c == '\n' && before != some '\r')
  | .wordEdge word => before.any word.contains != after.any word.contains
  | .notWordEdge word => before.any word.contains == after.any word.contains
  | .wordStart word => !before.any word.contains && after.any word.contains
  | .wordEnd word => before.any word.contains && !after.any word.contains
  | .notAfterWord word => !before.any word.contains
  | .notBeforeWord word => !after.any word.contains

end Look

/-- A pattern.  Rows and choices of more than two parts lean to the right. -/
inductive Pattern where
  | empty
  | text (t : Text)
  | one (s : CharSet)
  | look (l : Look)
  /-- A part with a number, by which what it matched can be told. -/
  | group (number : Nat) (p : Pattern)
  | seq (p q : Pattern)
  | either (p q : Pattern)
  /-- So many times at least and at most, and as often as can be or as rarely. -/
  | times (eager : Bool) (p : Pattern) (least : Nat) (most : Option Nat)
  deriving DecidableEq, Repr

end CountedConfig
