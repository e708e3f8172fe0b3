/-
The value that a line holds after its operator.

A value has at least one character that is not a newline.  It runs to the end of
the line on which its first visible character stands, so blanks before that
character belong to it, newlines among them.  The counted forms and `:=` keep the
value as it is; `=` trims it and takes one pair of quotes away.
-/
import CountedConfig.Text.Blank

namespace CountedConfig

/-- The value at the front of what follows an operator, if there is one. -/
def value? (tail : Text) : Option Text :=
  if tail.all (· == '\n') then none
  else if tail.all Text.isBlank then some (Text.dropTrailing (· == '\n') tail)
  else some (tail.takeWhile Text.isBlank ++ (Text.dropBlanks tail).takeWhile (· != '\n'))

/-- A trimmed value between quotes stands for what is between them.  A quote
that is alone both opens and closes, and nothing is between. -/
def unquote (value : Text) : Text :=
  let t := Text.trim value
  if t.head? = some '\'' ∧ t.getLast? = some '\'' then t.tail.dropLast else t

end CountedConfig
