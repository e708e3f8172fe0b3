/-
Parts of a text and where they are.
-/
import CountedConfig.Text

namespace CountedConfig

/-- A part of a text, by the number of characters before its start and its end. -/
structure Span where
  start : Nat
  stop : Nat
  deriving DecidableEq, Repr

namespace Span

/-- The empty part at a place. -/
def point (place : Nat) : Span := ⟨place, place⟩

def before (s : Span) : Span := .point s.start

def after (s : Span) : Span := .point s.stop

end Span

namespace Text

/-- The number of the line that a place lies on and its distance from the start of the
line, both counted from nothing. -/
def locate (t : Text) (place : Nat) : Nat × Nat :=
  let before := t.take place
  (before.count '\n', (before.reverse.takeWhile (· != '\n')).length)

end Text
end CountedConfig
