/-
Whether a pattern occurs in a text.

A matcher is a pattern in which the places are marked where the reading of the text
can stand: behind a set that the last character was matched with.  Reading one more
character moves all marks at once, so a text is read once from front to back, however
many ways there are to match it.
-/
import CountedConfig.Pattern

namespace CountedConfig
namespace Pattern

/-- A pattern with marks.  Repetitions are written out, but for the last copy of one
that has no greatest count. -/
inductive Matcher where
  | empty
  | look (l : Look)
  /-- A set, and whether the last character was matched with it. -/
  | one (isMarked : Bool) (s : CharSet)
  | seq (p q : Matcher)
  | either (p q : Matcher)
  /-- Once or more. -/
  | many (p : Matcher)

namespace Matcher

def copies (p : Matcher) : (count : Nat) → Matcher → Matcher
  | 0, rest => rest
  | count + 1, rest => .seq p (copies p count rest)

/-- A number of copies in a row, the last of which can come again. -/
def copiesOrMore (p : Matcher) : (count : Nat) → Matcher
  | 0 => .either .empty (.many p)
  | 1 => .many p
  | count + 1 => .seq p (copiesOrMore p count)

def upTo (p : Matcher) : (count : Nat) → Matcher
  | 0 => .empty
  | count + 1 => .either .empty (.seq p (upTo p count))

/-- The matcher of a pattern, without marks, for texts of so many characters at most.
Of more repetitions than characters one reads nothing, so that counts which differ
beyond that make no difference. -/
def ofPattern (length : Nat) : Pattern → Matcher
  | .empty => .empty
  | .text t => t.foldr (fun c rest => .seq (.one false (.single c)) rest) .empty
  | .one s => .one false s
  | .look l => .look l
  | .group _ p => ofPattern length p
  | .seq p q => .seq (ofPattern length p) (ofPattern length q)
  | .either p q => .either (ofPattern length p) (ofPattern length q)
  | .times _ p least most =>
    let p := ofPattern length p
    let count := min least (length + 1)
    match most with
    | some most => copies p count (upTo p (min (most - least) (length + 1)))
    | none => copiesOrMore p count

/-- Whether the matcher can be passed without reading, between two characters. -/
def isPassable (before after : Option Char) : Matcher → Bool
  | .empty => true
  | .look l => l.holds before after
  | .one .. => false
  | .seq p q => p.isPassable before after && q.isPassable before after
  | .either p q => p.isPassable before after || q.isPassable before after
  | .many p => p.isPassable before after

/-- Whether the marks lead to the end of the matcher without reading more, between two
characters. -/
def isFinished (before after : Option Char) : Matcher → Bool
  | .empty => false
  | .look _ => false
  | .one isMarked _ => isMarked
  | .seq p q =>
    q.isFinished before after || (p.isFinished before after && q.isPassable before after)
  | .either p q => p.isFinished before after || q.isFinished before after
  | .many p => p.isFinished before after

/-- Reads a character behind another one.  Given is whether a match can begin in front
of it. -/
def read (before : Option Char) (c : Char) : (canBegin : Bool) → Matcher → Matcher
  | _, .empty => .empty
  | _, .look l => .look l
  | canBegin, .one _ s => .one (canBegin && s.contains c) s
  | canBegin, .seq p q =>
    let canGoOn := (canBegin && p.isPassable before (some c)) || p.isFinished before (some c)
    .seq (p.read before c canBegin) (q.read before c canGoOn)
  | canBegin, .either p q => .either (p.read before c canBegin) (q.read before c canBegin)
  | canBegin, .many p =>
    .many (p.read before c (canBegin || p.isFinished before (some c)))

/-- Whether a match ends in front of the text or somewhere in it.  A match can begin
anywhere. -/
def occursIn (before : Option Char) (m : Matcher) : Text → Bool
  | [] => m.isPassable before none || m.isFinished before none
  | c :: rest =>
    m.isPassable before (some c) || m.isFinished before (some c) ||
      occursIn (some c) (m.read before c true) rest

end Matcher

def occursIn (p : Pattern) (t : Text) : Bool :=
  (Matcher.ofPattern t.length p).occursIn none t

end Pattern
end CountedConfig
