/-
Patterns in the form in which they are written.

A pattern is a choice between branches, a branch is a row of parts, and a part is an
atom, a class or a group, with repetition signs behind it.  Flags that are changed in
a group hold up to its end.
-/
import CountedConfig.Pattern.Class
import CountedConfig.Pattern.Simple

namespace CountedConfig
namespace Pattern
namespace Reader

/-! ### Groups -/

/-- Reads the letters of some flags up to a colon or the closing bracket, and where
each is.  A minus in front of letters turns them off. -/
def flagItems : (bound : Nat) → List (Char × Nat) → Reader (List (Char × Nat))
  | 0, _ => do fail .flagMissing (← place) (← place)
  | bound + 1, items => do
    match ← peek with
    | none => fail .flagMissing (← place) (← place)
    | some c =>
      if c = ':' || c = ')' then
        match items.getLast? with
        | some ('-', minus) => fail .flagNegationDangling minus (minus + 1)
        | _ => return items
      else
        let start ← place
        if c ≠ '-' && !Flags.letters.contains c then fail .flagUnrecognized start (start + 1)
        match items.lookup c with
        | some earlier =>
          throw ⟨if c = '-' then .flagNegationRepeated else .flagDuplicate,
            ⟨start, start + 1⟩, some ⟨earlier, earlier + 1⟩⟩
        | none =>
          skip 1
          flagItems bound (items ++ [(c, start)])

def isNameChar (isFirst : Bool) (c : Char) : Bool :=
  c == '_' ||
    if isFirst then Text.isAlphabetic c
    else c == '.' || c == '[' || c == ']' || Text.isAlphanumeric c

/-- The name of a group, up to the closing angle bracket, which no earlier group has. -/
def groupName : Reader Unit := do
  let start ← place
  let rest := (← get).rest
  let name := match rest with
    | c :: more => if isNameChar true c then c :: more.takeWhile (isNameChar false) else []
    | [] => []
  skip name.length
  let stop ← place
  match ← peek with
  | none => fail .nameUnclosed stop stop
  | some '>' =>
    skip 1
    if name = [] then fail .nameEmpty start start
    match (← get).names.lookup name with
    | some earlier => throw ⟨.nameDuplicate, ⟨start, stop⟩, some earlier⟩
    | none => modify fun s => { s with names := (name, ⟨start, stop⟩) :: s.names }
  | some _ => fail .nameInvalid stop (stop + 1)

inductive Opening where
  /-- Nothing: flags are changed, up to the end of the group around. -/
  | flags
  /-- A group without a number. -/
  | plain
  | numbered (number : Nat)

def nextGroup : Reader Opening := do
  modify fun s => { s with groups := s.groups + 1 }
  return .numbered (← get).groups

/-- Reads an opening bracket and what belongs to it.  The flags of the group are in
force then. -/
def groupOpening : Reader Opening := do
  let start ← place
  let _ ← step
  let inside ← place
  let rest := (← get).rest
  let isAhead := fun mark : String => mark.toList.isPrefixOf rest
  if isAhead "?=" || isAhead "?!" then fail .lookAround start (inside + 2)
  if isAhead "?<=" || isAhead "?<!" then fail .lookAround start (inside + 3)
  if isAhead "?P<" then
    skip 3
    groupName
    nextGroup
  else if isAhead "?<" then
    skip 2
    groupName
    nextGroup
  else if isAhead "?" then
    skip 1
    if ← atEnd then fail .groupUnclosed start (start + 1)
    let items ← flagItems (rest.length + 1) []
    let isGroup := (← peek) = some ':'
    skip 1
    if items = [] && !isGroup then fail .repetitionMissing inside inside
    setFlags ((← flags).change (items.map (·.1)))
    return if isGroup then .plain else .flags
  else nextGroup

/-! ### Repetitions -/

/-- Whether the question mark is next that turns the preference of a repetition
around, which is read. -/
def turn : Reader Bool := do
  let isTurned := (← peek) = some '?'
  if isTurned then skip 1
  return isTurned

structure Count where
  least : Nat
  most : Option Nat
  /-- Whether a question mark stands behind. -/
  isTurned : Bool

/-- A repetition in braces. -/
def bracedCount : Reader Count := do
  let start ← place
  unless ← step do fail .countUnclosed start (← place)
  let least ← decimal
  if ← atEnd then fail .countUnclosed start (← place)
  let (least, most) ← if (← peek) = some ',' then
      unless ← step do fail .countUnclosed start (← place)
      if (← peek) = some '\x7d' then pure (← liftExcept least, none)
      else
        let least ← liftExcept least
        let most ← liftExcept (← decimal)
        pure (least, some most)
    else
      let least ← liftExcept least
      pure (least, some least)
  if (← peek) ≠ some '\x7d' then fail .countUnclosed start (← place)
  let isTurned ← if ← step then turn else pure false
  if most.any (· < least) then fail .countInvalid start (← place)
  return ⟨least, most, isTurned⟩
where
  liftExcept (value : Except Error Nat) : Reader Nat :=
    match value with
    | .ok n => return n
    | .error e => throw e

/-- A repetition sign and the question mark behind it. -/
def count (sign : Char) : Reader Count := do
  if sign = '\x7b' then bracedCount
  else
    skip 1
    let isTurned ← turn
    return match sign with
      | '?' => ⟨0, some 1, isTurned⟩
      | '*' => ⟨0, none, isTurned⟩
      | _ => ⟨1, none, isTurned⟩

/-! ### Branches -/

/-- What an atom matches.  Where Unicode is off the characters beyond ASCII have no
other cases. -/
def ofAtom (f : Flags) : Atom → Pattern
  | .char c => ofSet (if c.toNat < 0x80 || f.unicode then f.fold (.single c) else .single c)
  | .set s => ofSet s
  | .look l => .look l

def primitive : Reader Pattern := do
  let f ← flags
  let start ← place
  match (← get).rest with
  | '\\' :: _ => return ofAtom f (← escape)
  | '.' :: _ =>
    skip 1
    if !f.unicode then defer .invalidUtf8 ⟨start, start + 1⟩
    return ofSet f.dot
  | '^' :: _ =>
    skip 1
    return .look f.start
  | '$' :: _ =>
    skip 1
    return .look f.stop
  | c :: _ =>
    skip 1
    return ofAtom f (.char c)
  | [] => return .empty

structure Part where
  /-- Nothing when the part changed flags. -/
  pattern : Option Pattern
  start : Nat
  nests : List Nest

structure Branch where
  pattern : Pattern
  nests : List Nest

def ofParts (parts : List Part) (start stop : Nat) : Branch :=
  ⟨row (parts.reverse.filterMap (·.pattern)),
    Nest.join parts.length ⟨start, stop⟩ (parts.reverse.flatMap (·.nests))⟩

structure Progress where
  /-- Where the bracket is that opened the group, if it is not the whole pattern. -/
  opening : Option Span
  /-- Where the first branch begins, and the last one. -/
  first : Nat
  lastStart : Nat
  /-- The branches before the last one, the last of them first. -/
  before : List Branch
  /-- The parts of the last branch, the last of them first. -/
  parts : List Part

namespace Progress

def start (opening : Option Span) (place : Nat) : Progress := ⟨opening, place, place, [], []⟩

def add (p : Progress) (part : Part) : Progress := { p with parts := part :: p.parts }

def last (p : Progress) (stop : Nat) : Branch := ofParts p.parts p.lastStart stop

def next (p : Progress) (stop start : Nat) : Progress :=
  { p with lastStart := start, before := p.last stop :: p.before, parts := [] }

def close (p : Progress) (stop : Nat) : Branch :=
  let all := (p.last stop :: p.before).reverse
  ⟨choice (all.map (·.pattern)),
    Nest.join all.length ⟨p.first, stop⟩ (all.flatMap (·.nests))⟩

end Progress

/-- The branches of a group up to its closing bracket, or of the pattern up to its
end. -/
def group : (bound : Nat) → Progress → Reader Branch
  | 0, p => return p.close (← place)
  | bound + 1, p => do
    skipSpace
    let start ← place
    match ← peek with
    | none =>
      match p.opening with
      | some opening => fail .groupUnclosed opening.start opening.stop
      | none => return p.close start
    | some c =>
      if c = '(' then
        let outer ← flags
        let opening ← groupOpening
        if let .flags := opening then group bound (p.add ⟨none, start, []⟩)
        else
          let inner ← group bound (.start (some ⟨start, start + 1⟩) (← place))
          setFlags outer
          skip 1
          let nest := Nest.node ⟨start, ← place⟩ inner.nests
          let pattern := match opening with
            | .numbered number => .group number inner.pattern
            | _ => inner.pattern
          group bound (p.add ⟨some pattern, start, [nest]⟩)
      else if c = ')' then
        if p.opening.isNone then fail .groupUnopened start (start + 1)
        return p.close start
      else if c = '|' then
        skip 1
        group bound (p.next start (← place))
      else if c = '[' then
        let bracketed ← bracketClass
        group bound (p.add ⟨some (ofSet bracketed.set), start, bracketed.nests⟩)
      else if c = '?' || c = '*' || c = '+' || c = '\x7b' then
        match p.parts with
        | ⟨some repeated, first, nests⟩ :: more =>
          let f ← flags
          let n ← count c
          let pattern := Pattern.repeated (n.isTurned == f.rare) repeated n.least n.most
          let nest := Nest.node ⟨first, ← place⟩ nests
          group bound { p with parts := ⟨some pattern, first, [nest]⟩ :: more }
        | _ => fail .repetitionMissing start start
      else group bound (p.add ⟨some (← primitive), start, []⟩)

end Reader

/-- The pattern that a text describes, or what is wrong with the text.  A wrong form is
told first, then too deep a nesting, and then a fault of meaning. -/
def ofText (t : Text) : Except Error Pattern :=
  let start : Scan := ⟨t, 0, .standard, [], 0, none⟩
  match (Reader.group (t.length + 1) (.start none 0)).run start with
  | .error e => .error e
  | .ok (all, s) =>
    match Nest.excessIn? Nest.limit all.nests, s.deferred with
    | some span, _ => .error ⟨.tooDeep Nest.limit, span, none⟩
    | none, some e => .error e
    | none, none => .ok all.pattern

end Pattern
end CountedConfig
