/-
How deep the parts of a pattern lie in one another.

A pattern has to be readable in bounded space, so the number of groups, classes,
repetitions, rows and choices around each of its parts has a limit.
-/
import CountedConfig.Pattern.Error

namespace CountedConfig
namespace Pattern

/-- A part of a pattern that has parts, where it is, and such parts in it. -/
inductive Nest where
  | node (span : Span) (inner : List Nest)

namespace Nest

/-- The greatest number of parts of a pattern that lie in one another. -/
def limit : Nat := 250

mutual

/-- The first part that lies in more others than are left. -/
def excess? : (left : Nat) → Nest → Option Span
  | 0, .node span _ => some span
  | left + 1, .node _ inner => excessIn? left inner

/-- The first such part of several. -/
def excessIn? : (left : Nat) → List Nest → Option Span
  | _, [] => none
  | left, nest :: more => (excess? left nest).or (excessIn? left more)

end

/-- Several parts as one that has them as its parts, if there is more than one. -/
def join (count : Nat) (span : Span) (inner : List Nest) : List Nest :=
  if 1 < count then [.node span inner] else inner

end Nest
end Pattern
end CountedConfig
