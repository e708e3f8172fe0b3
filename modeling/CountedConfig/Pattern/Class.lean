/-
Classes of characters in brackets: characters, ranges, escapes, named classes and
classes inside classes, joined by operators.
-/
import CountedConfig.Pattern.Escape
import CountedConfig.Pattern.Nest

namespace CountedConfig
namespace Pattern

/-- An operator between two sets in a class.  All bind alike and to the left. -/
inductive SetOperator where
  | inter
  | diff
  | symmDiff

namespace SetOperator

def apply : SetOperator → CharSet → CharSet → CharSet
  | .inter => .inter
  | .diff => .diff
  | .symmDiff => .symmDiff

/-- The operator that a character written twice stands for. -/
def ofPair? : Char → Char → Option SetOperator
  | '&', '&' => some .inter
  | '-', '-' => some .diff
  | '~', '~' => some .symmDiff
  | _, _ => none

end SetOperator

structure Operand where
  set : CharSet
  span : Span
  nests : List Nest

structure Operands where
  count : Nat
  joined : Operand

namespace Operands

def none (place : Nat) : Operands := ⟨0, .none, ⟨place, place⟩, []⟩

def add (o : Operands) (p : Operand) : Operands :=
  let start := if o.count = 0 then p.span.start else o.joined.span.start
  ⟨o.count + 1, .union o.joined.set p.set, ⟨start, p.span.stop⟩, o.joined.nests ++ p.nests⟩

def close (o : Operands) : Operand :=
  { o.joined with nests := Nest.join o.count o.joined.span o.joined.nests }

end Operands

namespace Operand

def join (f : Flags) (operator : SetOperator) (left right : Operand) : Operand :=
  let span : Span := ⟨left.span.start, right.span.stop⟩
  ⟨operator.apply (f.fold left.set) (f.fold right.set), span,
    [.node span (left.nests ++ right.nests)]⟩

end Operand

/-- A named class in a text that begins with its bracket: whether it is negated, its
set, and its length. -/
def namedClass? : Text → Option (Bool × CharSet × Nat)
  | '[' :: ':' :: rest =>
    let (negated, rest) := match rest with
      | '^' :: rest => (true, rest)
      | rest => (false, rest)
    let name := rest.takeWhile (· != ':')
    if ":]".toList.isPrefixOf (rest.drop name.length) then
      (CharSet.ofClassName? name).map fun s =>
        (negated, s, name.length + (if negated then 5 else 4))
    else none
  | _ => none

namespace Reader

def classAtom : Reader (Atom × Span) := do
  let start ← place
  match (← get).rest with
  | '\\' :: _ => return (← escape, ⟨start, ← place⟩)
  | c :: _ =>
    skip 1
    return (.char c, ⟨start, ← place⟩)
  | [] => fail .classUnclosed start start

/-- A character that a range starts or ends with. -/
def rangeEnd (atom : Atom) (span : Span) : Reader Char := do
  match atom with
  | .char c =>
    if 0x80 ≤ c.toNat && !(← flags).unicode then defer .unicodeNotAllowed span
    return c
  | _ => fail .classRangeLiteral span.start span.stop

def classItem (opening : Span) : Reader Operand := do
  let (first, span) ← classAtom
  skipSpace
  if ← atEnd then fail .classUnclosed opening.start opening.stop
  let behind ← peekBehind
  if (← peek) ≠ some '-' || behind = some ']' || behind = some '-' then
    match first with
    | .char c =>
      if 0x80 ≤ c.toNat && !(← flags).unicode then defer .unicodeNotAllowed span
      return ⟨.single c, span, []⟩
    | .set s => return ⟨s, span, []⟩
    | .look _ => fail .classEscapeInvalid span.start span.stop
  else
    unless ← step do fail .classUnclosed opening.start opening.stop
    let (last, lastSpan) ← classAtom
    let first ← rangeEnd first span
    let last ← rangeEnd last lastSpan
    if last < first then fail .classRangeInvalid span.start lastSpan.stop
    return ⟨.range first last, ⟨span.start, lastSpan.stop⟩, []⟩

structure ClassOpening where
  negated : Bool
  span : Span
  /-- What is in the class because it stands where it can have no other meaning. -/
  first : Operands

def classOpening : Reader ClassOpening := do
  let start ← place
  unless ← step do fail .classUnclosed start (← place)
  let negated := (← peek) = some '^'
  if negated then
    unless ← step do fail .classUnclosed start (← place)
  let inside ← place
  let dashes ← takeWhile (· == '-')
  if dashes ≠ [] && (← atEnd) then fail .classUnclosed start start
  if dashes = [] && (← peek) = some ']' then
    unless ← step do fail .classUnclosed start (← place)
    return ⟨negated, ⟨start, ← place⟩,
      (Operands.none inside).add ⟨.single ']', ⟨inside, inside + 1⟩, []⟩⟩
  let stop ← place
  return ⟨negated, ⟨start, stop⟩,
    ⟨dashes.length, .ofText dashes, ⟨inside, inside + dashes.length⟩, []⟩⟩

/-- What is in a class, up to the closing bracket.  Given are the span of the opening,
what an operator has in front of it, and what came since. -/
def classBody : (bound : Nat) → Span → Option (Operand × SetOperator) → Operands →
    Reader Operand
  | 0, opening, _, _ => fail .classUnclosed opening.start opening.stop
  | bound + 1, opening, left, items => do
    skipSpace
    let f ← flags
    let joined := match left with
      | some (left, operator) => .join f operator left items.close
      | none => items.close
    match (← get).rest with
    | [] => fail .classUnclosed opening.start opening.stop
    | ']' :: _ =>
      skip 1
      return joined
    | '[' :: rest =>
      let start ← place
      match namedClass? ('[' :: rest) with
      | some (negated, s, length) =>
        skip length
        let span : Span := ⟨start, ← place⟩
        let s ← closeClass true negated s span
        classBody bound opening left (items.add ⟨s, span, []⟩)
      | none =>
        let inner ← classOpening
        let body ← classBody bound inner.span none inner.first
        let span : Span := ⟨start, ← place⟩
        let s ← closeClass true inner.negated body.set span
        classBody bound opening left (items.add ⟨s, span, [.node span body.nests]⟩)
    | c :: d :: _ =>
      match SetOperator.ofPair? c d with
      | some operator =>
        skip 2
        classBody bound opening (some (joined, operator)) (.none (← place))
      | none => classBody bound opening left (items.add (← classItem opening))
    | [_] => classBody bound opening left (items.add (← classItem opening))

def bracketClass : Reader Operand := do
  let start ← place
  let opening ← classOpening
  let body ← classBody ((← get).rest.length + 1) opening.span none opening.first
  let span : Span := ⟨start, ← place⟩
  let s ← closeClass true opening.negated body.set span
  return ⟨s, span, [.node span body.nests]⟩

end Reader
end Pattern
end CountedConfig
