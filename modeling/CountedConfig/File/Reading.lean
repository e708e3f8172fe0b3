/-
Reading a file as a configuration document.
-/
import CountedConfig.File.Tree
import CountedConfig.Reading.Event

namespace CountedConfig

/-- The reading of the file at a path.  The path, as messages show it, names
the input. -/
def readFile (disk : Disk) (path : Path) : Except ReadError Run :=
  (disk path).map fun content => (Input.ofBytes path.display content).run

def parseFile (disk : Disk) (path : Path) : Except ParseError Document :=
  match readFile disk path with
  | .ok run => run.result
  | .error cause => .error (.unreadable path.display cause)

/-- The log of reading the file at a path.  A file that cannot be had is not read,
and leaves no record. -/
def logFile (disk : Disk) (path : Path) : List Event :=
  match readFile disk path with
  | .ok run => run.log
  | .error _ => []

end CountedConfig
