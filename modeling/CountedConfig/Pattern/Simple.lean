/-
Simple forms of patterns.

The functions here put patterns together as rows, choices and repetitions and leave
away what makes no difference.  A row holds no row, no empty part and no two texts
side by side.  A choice holds no choice, what its branches begin with alike stands in
front of it, and a choice between single characters or between sets is one set.  A
repetition is not of nothing, and of conditions alone it is no repetition.
-/
import CountedConfig.Pattern

namespace CountedConfig
namespace Pattern

/-! ### Lengths -/

/-- The number of characters that every match has at least, unless a part of the
pattern can match nothing at all. -/
def shortest? : Pattern → Option Nat
  | .empty => some 0
  | .text t => some t.length
  | .one s => if s.runs = [] then none else some 1
  | .look _ => some 0
  | .group _ p => p.shortest?
  | .seq p q => do return (← p.shortest?) + (← q.shortest?)
  | .either p q => do return min (← p.shortest?) (← q.shortest?)
  | .times _ p least _ => p.shortest?.map (· * least)

/-- Whether a match reads no character, whatever the text is. -/
def isWidthless : Pattern → Bool
  | .empty => true
  | .text t => t.isEmpty
  | .one _ => false
  | .look _ => true
  | .group _ p => p.isWidthless
  | .seq p q => p.isWidthless && q.isWidthless
  | .either p q => p.isWidthless && q.isWidthless
  | .times _ p _ most => p.isWidthless && most.isSome

/-! ### Sets -/

/-- One character of a set, which is a text when the set has only one. -/
def ofSet (s : CharSet) : Pattern :=
  match s.runs with
  | [(first, last)] => if first = last then .text [Char.ofNat first] else .one s
  | _ => .one s

/-! ### Rows -/

/-- The parts of a row, which any other pattern is the only part of. -/
def parts : Pattern → List Pattern
  | .empty => []
  | .seq p q => p :: q.parts
  | p => [p]

/-- The row of some parts that are simple side by side. -/
def ofParts : List Pattern → Pattern
  | [] => .empty
  | [p] => p
  | p :: more => .seq p (ofParts more)

/-- Puts a part in front of others.  Two texts become one. -/
def addPart : Pattern → List Pattern → List Pattern
  | .text s, .text t :: more => .text (s ++ t) :: more
  | p, more => p :: more

/-- Some patterns one behind the other. -/
def row (ps : List Pattern) : Pattern := ofParts ((ps.flatMap parts).foldr addPart [])

/-! ### Choices -/

/-- The branches of a choice, which any other pattern is the only branch of. -/
def branches : Pattern → List Pattern
  | .either p q => p :: q.branches
  | p => [p]

/-- The choice between some branches that are simple side by side. -/
def ofBranches : List Pattern → Pattern
  | [] => .one .none
  | [p] => p
  | p :: more => .either p (ofBranches more)

def char? : Pattern → Option Char
  | .text [c] => some c
  | _ => none

def set? : Pattern → Option CharSet
  | .one s => some s
  | _ => none

/-- A choice between single characters, or else between sets, as one set. -/
def ofSets? (branches : List Pattern) : Option Pattern :=
  match branches.mapM char? with
  | some cs => some (ofSet (.ofText cs))
  | none => (branches.mapM set?).map fun sets => ofSet (.unions sets)

/-- A choice between branches that have nothing in common in front. -/
def flatChoice (branches : List Pattern) : Pattern :=
  match branches with
  | [p] => p
  | _ => (ofSets? branches).getD (ofBranches branches)

/-- What two lists begin with alike. -/
def commonStart {α : Type} [DecidableEq α] : List α → List α → List α
  | x :: xs, y :: ys => if x = y then x :: commonStart xs ys else []
  | _, _ => []

/-- What some rows begin with alike.  A branch that is no row begins like none. -/
def sharedStart (branches : List Pattern) : List Pattern :=
  let rows := branches.mapM fun
    | .seq p q => some (p :: q.parts)
    | _ => none
  match rows with
  | some (first :: more) => more.foldl commonStart first
  | _ => []

def choice (ps : List Pattern) : Pattern :=
  match ps.flatMap branches with
  | [p] => p
  | all =>
    match ofSets? all, sharedStart all with
    | some p, _ => p
    | none, [] => ofBranches all
    | none, start =>
      let rests := all.map fun p => ofParts (p.parts.drop start.length)
      row (start ++ [flatChoice (rests.flatMap branches)])

/-! ### Repetitions -/

/-- A pattern so many times.  Once more makes no difference to a condition. -/
def repeated (eager : Bool) (p : Pattern) (least : Nat) (most : Option Nat) : Pattern :=
  let (least, most) :=
    if p.isWidthless then (min least 1, some (min 1 (most.getD 1))) else (least, most)
  if least = 0 && most == some 0 then .empty
  else if least = 1 && most == some 1 then p
  else .times eager p least most

end Pattern
end CountedConfig
