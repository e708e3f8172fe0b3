/-
The files that a program can reach from the directory it runs in.

A `FileTree` knows what is below the working directory and nothing else: above it
there are directories, but no name in them is known.  Paths are resolved piece by
piece, and each piece but the last has to be a directory.
-/
import CountedConfig.Error
import CountedConfig.File.Path

namespace CountedConfig

/-- What reading the file at a path gives. -/
abbrev Disk := Path → Except ReadError Bytes

namespace Disk

/-- Whether there is something at a path, be it something that cannot be read. -/
def has (disk : Disk) (path : Path) : Bool :=
  match disk path with
  | .ok _ => true
  | .error .isDirectory => true
  | .error (.refused ..) => true
  | .error _ => false

end Disk

structure FileTree where
  files : List (List Bytes × Bytes)
  directories : List (List Bytes)

inductive Place where
  /-- Below the working directory, or at it. -/
  | inside (names : List Bytes)
  /-- Above the working directory. -/
  | outside
  deriving DecidableEq, Repr

namespace FileTree

def empty : FileTree := ⟨[], []⟩

def here : Bytes := [Path.dot]

def above : Bytes := [Path.dot, Path.dot]

def pieces (path : Path) : List Bytes := (path.splitOn Path.slash).filter (· ≠ [])

/-- The directories on the way along some pieces, the last of them the end. -/
def directoriesOn : List Bytes → List Bytes → List (List Bytes)
  | names, [] => [names]
  | names, piece :: rest =>
    names ::
      if piece = here then directoriesOn names rest
      else if piece = above then directoriesOn names.dropLast rest
      else directoriesOn (names ++ [piece]) rest

def addDirectory (path : Path) (tree : FileTree) : FileTree :=
  { tree with directories := tree.directories ++ directoriesOn [] (pieces path) }

def addFile (path : Path) (content : Bytes) (tree : FileTree) : FileTree :=
  let way := directoriesOn [] (pieces path).dropLast
  let name := (pieces path).getLast?.toList
  { files := ((way.getLastD []) ++ name, content) :: tree.files,
    directories := tree.directories ++ way }

def isDirectory (tree : FileTree) : Place → Bool
  | .inside names => names = [] || tree.directories.contains names
  | .outside => true

def file? (tree : FileTree) : Place → Option Bytes
  | .inside names => tree.files.lookup names
  | .outside => none

def follow (tree : FileTree) (place : Place) (piece : Bytes) : Except ReadError Place :=
  if !tree.isDirectory place then .error .notDirectory
  else if piece = here then .ok place
  else match place with
    | .inside names =>
      if piece = above then .ok (if names = [] then .outside else .inside names.dropLast)
      else
        let next := Place.inside (names ++ [piece])
        if tree.isDirectory next || (tree.file? next).isSome then .ok next
        else .error .notFound
    | .outside => if piece = above then .ok .outside else .error .notFound

/-- The place that a path leads to.  A slash at the end asks for a directory. -/
def resolve (tree : FileTree) (path : Path) : Except ReadError Place :=
  let start := if path.isAbsolute then Place.outside else .inside []
  let asked := pieces path ++ if path.getLast? = some Path.slash then [here] else []
  asked.foldlM tree.follow start

def read (tree : FileTree) : Disk := fun path =>
  if path.contains 0 then .error .nulInPath
  else if path = [] then .error .notFound
  else match tree.resolve path with
    | .error e => .error e
    | .ok place =>
      match tree.file? place with
      | some content => .ok content
      | none => .error .isDirectory

end FileTree
end CountedConfig
