/-
Scripts by their names.
-/
import CountedConfig.Unicode.Script.AtoK
import CountedConfig.Unicode.Script.LtoZ

namespace CountedConfig
namespace Unicode

open Text (Runs)

def scripts : List Script := scriptsAtoK ++ scriptsLtoZ

namespace Script

/-- The name as it is looked up. -/
def plainName (s : Script) : String := String.ofList (s.name.toLower.toList.filter (· != '_'))

/-- Whether the script is meant by a name or a code. -/
def isCalled (name : String) (s : Script) : Bool := s.plainName = name || s.codes.contains name

def ofName? (name : String) : Option Script := scripts.find? (isCalled name)

/-- The characters that are used with some other script, though they do not belong to
it. -/
def allShared : Runs := Runs.unions (scripts.map (·.shared))

/-- Whether the script stands for the lack of one: its characters belong to no script
in particular, or to that of the character before them. -/
def isNeutral (s : Script) : Bool := s.name = "Common" || s.name = "Inherited"

/-- The characters that are used with the script.  Those that are used with particular
scripts are not counted as neutral. -/
def used (s : Script) : Runs :=
  if s.isNeutral then Runs.diff s.own allShared else Runs.union s.own s.shared

end Script
end Unicode
end CountedConfig
