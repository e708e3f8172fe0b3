/-
File paths as they are written: components between slashes.

A path is a run of bytes, and need not be text.  Nothing here asks a file system.
Joining and taking the parent work on the bytes, and keep what they do not need to
change.
-/
import CountedConfig.Text.Foreign

namespace CountedConfig

abbrev Path := Bytes

namespace Path

def slash : UInt8 := 0x2f

def dot : UInt8 := 0x2e

def isAbsolute (path : Path) : Bool := path.head? == some slash

/-- The path `p` as seen from the directory `base`.  An absolute path stays as it
is, and so does every path when there is no base. -/
def join (base p : Path) : Path :=
  if isAbsolute p || base.isEmpty then p
  else if base.getLast? = some slash then base ++ p
  else base ++ slash :: p

/-- A piece between slashes that names nothing: an empty one, or `.` behind a
slash. -/
def isVoid (piece : Bytes) : Bool := piece.isEmpty || piece == [dot]

/-- What a path begins with that is no ordinary component, the root or a leading
`.`, and what follows it. -/
def splitLead (path : Path) : Path × Path :=
  if isAbsolute path then ([slash], path.tail)
  else if path = [dot] ∨ [dot, slash] <+: path then ([dot], path.tail)
  else ([], path)

/-- The directory that holds the last component, without the slashes and the void
pieces before that component.  A path with no component but its lead has no
directory to show, and gives the empty path. -/
def parent (path : Path) : Path :=
  let (lead, body) := splitLead path
  match (body.splitOn slash).reverse.dropWhile isVoid with
  | [] => []
  | _ :: before => lead ++ List.intercalate [slash] (before.dropWhile isVoid).reverse

/-- The path as messages show it. -/
def display (path : Path) : Text := Text.lossy path

end Path
end CountedConfig
