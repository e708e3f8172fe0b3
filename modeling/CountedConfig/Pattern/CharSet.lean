/-
Sets of characters, as a pattern describes them.
-/
import CountedConfig.Text
import CountedConfig.Unicode.Casing
import CountedConfig.Unicode.Property

namespace CountedConfig

open Text (Runs)

/-- A set of characters, by its runs. -/
structure CharSet where
  runs : Runs
  deriving DecidableEq, Repr

namespace CharSet

def contains (s : CharSet) (c : Char) : Bool := Text.inRuns s.runs c

def none : CharSet := ⟨[]⟩

def range (first last : Char) : CharSet := ⟨[(first.toNat, last.toNat)]⟩

def single (c : Char) : CharSet := range c c

def union (a b : CharSet) : CharSet := ⟨Runs.union a.runs b.runs⟩

def inter (a b : CharSet) : CharSet := ⟨Runs.inter a.runs b.runs⟩

def diff (a b : CharSet) : CharSet := ⟨Runs.diff a.runs b.runs⟩

def symmDiff (a b : CharSet) : CharSet := ⟨Runs.symmDiff a.runs b.runs⟩

def compl (a : CharSet) : CharSet := ⟨Runs.compl a.runs⟩

/-- The set with the other cases of what is in it. -/
def folded (a : CharSet) : CharSet := ⟨Unicode.withCases a.runs⟩

def any : CharSet := compl none

def ofText (t : Text) : CharSet := ⟨Runs.ofList (t.map fun c => (c.toNat, c.toNat))⟩

def unions (sets : List CharSet) : CharSet := ⟨Runs.unions (sets.map runs)⟩

def ascii : CharSet := range '\x00' '\x7f'

def lower : CharSet := range 'a' 'z'

def upper : CharSet := range 'A' 'Z'

def digit : CharSet := range '0' '9'

/-- The set of a class that is given by a name, with ASCII characters only. -/
def ofClassName? (name : Text) : Option CharSet :=
  let table : List (String × CharSet) :=
    [("alnum", unions [digit, upper, lower]), ("alpha", union upper lower), ("ascii", ascii),
      ("blank", ofText "\t ".toList), ("cntrl", union (range '\x00' '\x1f') (single '\x7f')),
      ("digit", digit), ("graph", range '!' '~'), ("lower", lower), ("print", range ' ' '~'),
      ("punct", unions [range '!' '/', range ':' '@', range '[' '\x60', range '\x7b' '~']),
      ("space", ofText "\t\n\x0b\x0c\r ".toList), ("upper", upper),
      ("word", unions [digit, upper, lower, single '_']),
      ("xdigit", unions [digit, range 'A' 'F', range 'a' 'f'])]
  (table.find? fun entry => entry.1.toList = name).map (·.2)

end CharSet
end CountedConfig
