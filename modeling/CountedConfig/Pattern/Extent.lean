/-
The memory that a pattern takes as an automaton.

A pattern that is to be looked for is laid out as an automaton that reads bytes, once
from front to back and once from back to front, and in neither direction may the
automaton take more memory than the limit.  Nothing here runs an automaton.  What
counts is the number of its states and of the links between them: every state has the
same size, and a state with several ways on has the size of a link more for each.

Copies of a repeated part are written out.  A set of characters beyond ASCII is laid
out byte by byte, and states that lead to the same place by the same bytes are
shared.  What can be shared is looked up in a table with a fixed number of places, in
which a state drives out another one that has the same place, so the extent of a set
depends a little on the numbers of its states.
-/
import CountedConfig.Pattern
import CountedConfig.Pattern.Simple
import CountedConfig.Text.ByteRuns
import Std.Data.HashMap

namespace CountedConfig
namespace Pattern

structure Extent where
  /-- The number of states, which the next state has as its number. -/
  states : Nat
  /-- The memory that states and links take. -/
  bytes : Nat
  deriving DecidableEq, Repr

namespace Extent

/-- The memory that an automaton may take. -/
def limit : Nat := 10 * 1024 * 1024

/-- The memory that a state takes, without those links that take more. -/
def stateBytes : Nat := 32

/-- The memory that a link takes to a state that is read on from without a byte. -/
def jumpBytes : Nat := 4

/-- The memory that a link takes that reads a byte. -/
def stepBytes : Nat := 8

def join (a b : Extent) : Extent := ⟨a.states + b.states, a.bytes + b.bytes⟩

def plain (states : Nat) : Extent := ⟨states, states * stateBytes⟩

def fork (jumps : Nat) : Extent := ⟨1, stateBytes + jumps * jumpBytes⟩

def branch (steps : Nat) : Extent := ⟨1, stateBytes + steps * stepBytes⟩

end Extent

/-- Lays out a part of an automaton behind what there is, unless the limit is
exceeded. -/
abbrev Growth := Extent → Option Extent

namespace Growth

def add (part : Extent) : Growth := fun e =>
  let all := e.join part
  if Extent.limit < all.bytes then none else some all

def nothing : Growth := some

def copies (g : Growth) : (count : Nat) → Growth
  | 0, e => some e
  | count + 1, e =>
    match g e with
    | some e => copies g count e
    | none => none

def append (g h : Growth) : Growth := fun e => (g e).bind h

instance : Append Growth := ⟨append⟩

end Growth

/-! ### Sets of characters -/

/-- States that can be shared: the places of the table, each with the description of
a state and its number. -/
structure Sharing where
  extent : Extent
  table : Std.HashMap Nat (List Nat × Nat)

namespace Sharing

/-- A number for a description, which spreads descriptions over the places. -/
def spread (description : List Nat) : Nat :=
  (description.foldl (fun (h : UInt64) n => (h ^^^ n.toUInt64) * 1099511628211)
    14695981039346656037).toNat

/-- The number of the state with a description, which is laid out unless the table has
it. -/
def state (places : Nat) (description : List Nat) (part : Extent) : StateT Sharing Option Nat :=
  fun s =>
    let place := spread description % places
    let found := (s.table[place]?).filter fun entry => entry.1 = description
    match found with
    | some (_, number) => some (number, s)
    | none =>
      let number := s.extent.states
      (Growth.add part s.extent).map fun extent =>
        (number, ⟨extent, s.table.insert place (description, number)⟩)

/-- The runs of bytes in groups of those that begin alike, each group without what it
begins with. -/
def groups : List Text.ByteRuns → List ((UInt8 × UInt8) × List Text.ByteRuns)
  | [] => []
  | [] :: more => groups more
  | (b :: rest) :: more =>
    match groups more with
    | (c, rests) :: others =>
      if b = c then (c, rest :: rests) :: others else (b, [rest]) :: (c, rests) :: others
    | [] => [(b, [rest])]

/-- The state from which some runs of bytes lead to another state.  Those that end
alike are read by the same states. -/
def readAhead (target : Nat) : (length : Nat) → List Text.ByteRuns → StateT Sharing Option Nat
  | 0, _ => return target
  | length + 1, runs => do
    if runs.all List.isEmpty then return target
    let steps ← (groups runs).mapM fun ((first, last), rests) => do
      return [first.toNat, last.toNat, ← readAhead target length rests]
    state 10000 steps.flatten (.branch steps.length)

/-- The state from which the bytes of some runs lead to another state when they are
read from the last to the first. -/
def readBack (target : Nat) (runs : Text.ByteRuns) : StateT Sharing Option Nat :=
  runs.foldlM (fun next (first, last) =>
    state 1000 [next, first.toNat, last.toNat] (.plain 1)) target

end Sharing

inductive Direction where
  | ahead
  | back
  deriving DecidableEq, Repr

namespace Growth

def ofSet (d : Direction) (s : CharSet) : Growth :=
  if s.runs.all fun run => run.2 < 0x80 then
    add (.plain 1) ++ add (.branch s.runs.length)
  else
    let runs := Text.ByteRuns.ofRuns s.runs
    match d with
    | .ahead => fun e => do
      let start ← add (.plain 1) e
      return ((← (Sharing.readAhead e.states 4 runs).run ⟨start, ∅⟩).2).extent
    | .back => fun e => do
      let start ← (add (.fork runs.length) ++ add (.plain 1)) e
      let readAll := runs.forM fun r => do let _ ← Sharing.readBack (e.states + 1) r
      return ((← readAll.run ⟨start, ∅⟩).2).extent

end Growth

/-! ### Texts -/

namespace Extent

/-- The pieces of a list of byte strings between those that are empty.  Of several
empty ones at the front only the first counts. -/
def chunks : (isFirst : Bool) → List Bytes → List (List Bytes)
  | _, [] => [[]]
  | isFirst, w :: more =>
    if w = [] then
      if isFirst && more.head? = some [] then chunks true more else [] :: chunks false more
    else
      match chunks false more with
      | [] => [[w]]
      | chunk :: others => (w :: chunk) :: others

/-- The extent of a tree that reads one of some byte strings, not all of them empty
ones.  Strings that begin alike share the states for what they have in common, except
across a string that ends there. -/
def ofTree : (length : Nat) → List Bytes → Extent
  | 0, _ => ⟨0, 0⟩
  | length + 1, words =>
    let all := chunks true words
    let forked := all.map fun chunk =>
      let bytes := (chunk.filterMap List.head?).eraseDups
      let subtrees := bytes.map fun b =>
        let rests := chunk.filterMap fun w => if w.head? = some b then some w.tail else none
        if rests.all List.isEmpty then ⟨0, 0⟩ else ofTree length rests
      let own := match bytes.length with
        | 0 => ⟨0, 0⟩
        | 1 => plain 1
        | n => branch n
      subtrees.foldl join own
    let jumps := (all.filter (· ≠ [])).length + (all.length - 1)
    forked.foldl join (fork jumps)

def ofTexts (d : Direction) (texts : List Text) : Extent :=
  let words := texts.map fun t =>
    match d with
    | .ahead => Text.encode t
    | .back => (Text.encode t).reverse
  let length := (words.map List.length).foldl max 0
  (plain 1).join (ofTree length words)

end Extent

/-! ### Patterns -/

/-- The texts of a choice between texts. -/
def texts? (p : Pattern) : Option (List Text) :=
  p.branches.mapM fun
    | .text t => some t
    | _ => none

namespace Growth

/-- Joins a branch to the choice that it belongs to, given the number of branches
before it.  With the second branch it is known that there is a choice. -/
def joint : (before : Nat) → Growth
  | 0 => nothing
  | 1 => add (.fork 2) ++ add (.plain 1)
  | _ + 2 => add ⟨0, Extent.jumpBytes⟩

/-- Lays out the repetition of a part, which can be passed without reading or not. -/
def times (g : Growth) (isPassable : Bool) (least : Nat) : (most : Option Nat) → Growth
  | none =>
    if 0 < least then copies g least ++ add (.fork 2)
    else if isPassable then g ++ add (.fork 2) ++ add (.fork 2) ++ add (.plain 1)
    else add (.fork 2) ++ g
  | some most =>
    if least = 0 && most = 1 then add (.fork 2) ++ g ++ add (.plain 1)
    else if least = most then copies g least
    else
      (if least = 0 then add (.plain 1) else copies g least) ++ add (.plain 1) ++
        copies (add (.fork 2) ++ g) (most - least)

/-- Lays out a pattern as a branch with so many branches before it, or by itself. -/
def ofPattern (d : Direction) : (before : Nat) → Pattern → Growth
  | before, .empty => add (.plain 1) ++ joint before
  | before, .text t => add (.plain (Text.encode t).length) ++ joint before
  | before, .one s => ofSet d s ++ joint before
  | before, .look _ => add (.plain 1) ++ joint before
  | before, .group _ p =>
    (match d with
      | .ahead => add (.plain 1) ++ ofPattern d 0 p ++ add (.plain 1)
      | .back => ofPattern d 0 p) ++ joint before
  | before, .seq p q =>
    (match d with
      | .ahead => ofPattern d 0 p ++ ofPattern d 0 q
      | .back => ofPattern d 0 q ++ ofPattern d 0 p) ++ joint before
  | before, .either p q =>
    match before, texts? (.either p q) with
    | 0, some texts => add (.ofTexts d texts)
    | _, _ => ofPattern d 0 p ++ joint before ++ ofPattern d (before + 1) q
  | before, .times _ p least most =>
    times (ofPattern d 0 p) (p.shortest?.all (· = 0)) least most ++ joint before

end Growth

/-- Whether every match begins where the text begins, by the condition in front. -/
def isAtStart : Pattern → Bool
  | .look l => l = .textStart
  | .group _ p => p.isAtStart
  | .seq p q => p.isAtStart || (p.isWidthless && q.isAtStart)
  | .either p q => p.isAtStart && q.isAtStart
  | .times _ p least _ => 0 < least && p.isAtStart
  | _ => false

/-- Whether every match ends where the text ends, by the condition at the end. -/
def isAtEnd : Pattern → Bool
  | .look l => l = .textEnd
  | .group _ p => p.isAtEnd
  | .seq p q => q.isAtEnd || (q.isWidthless && p.isAtEnd)
  | .either p q => p.isAtEnd && q.isAtEnd
  | .times _ p least _ => 0 < least && p.isAtEnd
  | _ => false

/-- Lays out what comes before a match: nothing when a match is tied to the end of the
text from which is read, and else any bytes. -/
def lead (d : Direction) (p : Pattern) : Growth :=
  let isTied := match d with
    | .ahead => p.isAtStart
    | .back => p.isAtEnd
  if isTied then .add (.plain 1)
  else .add (.fork 2) ++ .add (.plain 1) ++ .add (.branch 1)

/-- The extent of the automaton that looks for the pattern in a direction, if it is
within the limit.  The pattern as a whole is a group of its own. -/
def extent? (d : Direction) (p : Pattern) : Option Extent :=
  (lead d p ++ Growth.ofPattern d 0 (.group 0 p) ++ .add (.plain 1)) ⟨0, 0⟩

def isWithinLimit (p : Pattern) : Bool := (p.extent? .back).isSome && (p.extent? .ahead).isSome

end Pattern
end CountedConfig
