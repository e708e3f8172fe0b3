/-
Sets of characters as runs of code points.

A table lists runs in ascending order, and no two of them touch.  The operations keep
that form, so that a set has one list of runs and membership is a search that ends
early.
-/
namespace CountedConfig
namespace Text

/-- Runs of code points, each a first and a last one. -/
abbrev Runs := List (Nat × Nat)

/-- Whether a code point lies in one of the runs.  They ascend, so the search ends at
the first run beyond the code point. -/
def inRuns : Runs → Char → Bool
  | [], _ => false
  | (first, last) :: more, c => first ≤ c.toNat && (c.toNat ≤ last || inRuns more c)

namespace Runs

/-- The greatest code point. -/
def maximum : Nat := 0x10ffff

/-- The code point of the character in front of one, across the gap in which no
characters are. -/
def before (n : Nat) : Nat := if n = 0xe000 then 0xd7ff else n - 1

/-- The code point of the character behind one. -/
def behind (n : Nat) : Nat := if n = 0xd7ff then 0xe000 else n + 1

/-- A run and those that follow it, of which the ones that touch it are joined. -/
def join (first last : Nat) : Runs → Runs
  | [] => [(first, last)]
  | (start, stop) :: more =>
    if start ≤ last + 1 then join first (max last stop) more
    else (first, last) :: join start stop more

def joined : Runs → Runs
  | [] => []
  | (first, last) :: more => join first last more

/-- Runs in any order as a set. -/
def ofList (runs : List (Nat × Nat)) : Runs :=
  joined (runs.mergeSort fun a b => a.1 ≤ b.1)

def union (a b : Runs) : Runs := joined (List.merge a b fun x y => decide (x.1 ≤ y.1))

def unions (sets : List Runs) : Runs := ofList sets.flatten

def inter : Runs → Runs → Runs
  | [], _ => []
  | _, [] => []
  | (a, b) :: more, (c, d) :: others =>
    let rest := if b < d then inter more ((c, d) :: others) else inter ((a, b) :: more) others
    if max a c ≤ min b d then (max a c, min b d) :: rest else rest
termination_by s t => s.length + t.length

def diff : Runs → Runs → Runs
  | [], _ => []
  | a, [] => a
  | (a, b) :: more, (c, d) :: others =>
    if d < a then diff ((a, b) :: more) others
    else if b < c then (a, b) :: diff more ((c, d) :: others)
    else
      let rest :=
        if d < b then diff ((behind d, b) :: more) others else diff more ((c, d) :: others)
      if a < c then (a, before c) :: rest else rest
termination_by s t => s.length + t.length

def symmDiff (a b : Runs) : Runs := diff (union a b) (inter a b)

def span (a b : Nat) : Nat × Nat := if a ≤ b then (a, b) else (b, a)

/-- What lies between the runs, behind the given last code point of one. -/
def gaps (last : Nat) : Runs → Runs
  | [] => if last < maximum then [(behind last, maximum)] else []
  | (start, stop) :: more => span (behind last) (before start) :: gaps stop more

def compl : Runs → Runs
  | [] => [(0, maximum)]
  | (first, last) :: more =>
    if 0 < first then (0, before first) :: gaps last more else gaps last more

end Runs
end Text
end CountedConfig
