/-
Scripts: the systems of writing that characters belong to.
-/
import CountedConfig.Text.Runs

namespace CountedConfig
namespace Unicode

open Text (Runs)

structure Script where
  name : String
  /-- The codes that stand for the name. -/
  codes : List String
  /-- The characters that belong to the script. -/
  own : Runs
  /-- The characters of other scripts, or of no script in particular, that are used
  with this one. -/
  shared : Runs
  deriving Repr

end Unicode
end CountedConfig
