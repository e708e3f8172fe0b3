/-
Log directives: which records are shown.

A specification is a list of pieces between commas.  A piece names a part of the
program and the threshold for it; one that is a threshold alone is for everything.
For a record the directive with the longest name that its target begins with
decides.  The pattern behind a slash has to occur in the message as well, and with a
second slash the whole specification is refused.
-/
import CountedConfig.Log.Record
import CountedConfig.Pattern.Acceptance
import CountedConfig.Pattern.Matcher

namespace CountedConfig

namespace Threshold

/-- A threshold by its name, in either case. -/
def ofName? (t : Text) : Option Threshold :=
  [none, some .error, some .warn, some .info, some .debug, some .trace].find? fun threshold =>
    t.map Char.toUpper = threshold.name

end Threshold

/-- A threshold for the targets that begin with a name, or for all targets. -/
structure Directive where
  name : Option Text
  threshold : Threshold
  deriving DecidableEq, Repr

namespace Directive

def covers (d : Directive) (target : Text) : Bool :=
  match d.name with
  | some name => name.isPrefixOf target
  | none => true

/-- The length of the name, by which directives are held against a target. -/
def weight (d : Directive) : Nat :=
  match d.name with
  | some name => name.length
  | none => 0

/-- A directive by one piece of a specification, or the text at which the piece
fails. -/
def ofPiece (piece : Text) : Except Text Directive :=
  match piece.splitOn '=' with
  | [word] =>
    match Threshold.ofName? word with
    | some threshold => .ok ⟨none, threshold⟩
    | none => .ok ⟨some word, some .trace⟩
  | [name, value] =>
    match Text.trim value with
    | [] => .ok ⟨some name, some .trace⟩
    | value =>
      match Threshold.ofName? value with
      | some threshold => .ok ⟨some name, threshold⟩
      | none => .error value
  | _ => .error piece

end Directive

structure Specification where
  pieces : List Text
  /-- What stands behind the slash. -/
  pattern : Option Text
  deriving DecidableEq, Repr

namespace Specification

/-- The parts of a specification, unless a second slash spoils it. -/
def ofText? (spec : Text) : Option Specification :=
  match spec.splitOn '/' with
  | first :: rest =>
    if 1 < rest.length then none
    else some ⟨((first.splitOn ',').map Text.trim).filter (· ≠ []), rest.head?⟩
  | [] => none

end Specification

/-- What is in force: directives, no two of them with the same name, and the pattern
that has to occur in a message. -/
structure Directives where
  all : List Directive
  pattern : Option Pattern
  deriving DecidableEq, Repr

namespace Directives

/-- Puts a directive in force, at the place of the one with the same name. -/
def put (d : Directive) : List Directive → List Directive
  | [] => [d]
  | e :: rest => if e.name = d.name then d :: rest else e :: put d rest

/-- Without a specification, warnings and errors are shown. -/
def standard : Directives := ⟨[⟨none, some .warn⟩], none⟩

def complaint (fault : Text) : Text :=
  "warning: ".toList ++ fault ++ ", ignoring it".toList

/-- What is wrong with a piece, or with a specification as a whole. -/
def invalidSpecification (piece reason : Text) : Text :=
  "invalid logging spec '".toList ++ piece ++ ['\''] ++ reason

/-- The standard directives with those of a specification laid over them, and a warning
for each part of it, be it a piece or the pattern, that is left out of account. -/
def read (spec : Text) : Directives × List Text :=
  match Specification.ofText? spec with
  | none => (standard, [complaint (invalidSpecification spec " (too many '/'s)".toList)])
  | some s =>
    let pieces := s.pieces.map Directive.ofPiece
    let pattern := s.pattern.map fun t => (t, Pattern.accept t)
    let given := pieces.filterMap Except.toOption
    let ofPieces := pieces.filterMap fun
      | .error fault => some (complaint (invalidSpecification fault []))
      | .ok _ => none
    let ofPattern := pattern.toList.filterMap fun
      | (t, .error e) => some (complaint ("invalid regex filter - ".toList ++ e.message t))
      | (_, .ok _) => none
    (⟨given.foldl (fun ds d => put d ds) standard.all, pattern.bind fun p => p.2.toOption⟩,
      ofPieces ++ ofPattern)

def ofSpecification (spec : Text) : Directives := (read spec).1

/-- The least important level that some target can still show. -/
def threshold (ds : Directives) : Threshold :=
  ds.all.foldl (fun t d => t.max d.threshold) none

/-- The threshold for a target: by the directive of the longest name that covers it,
the last of several that are as long. -/
def thresholdFor (ds : Directives) (target : Text) : Threshold :=
  let byWeight := ds.all.mergeSort fun a b => a.weight ≤ b.weight
  match byWeight.reverse.find? fun d => d.covers target with
  | some d => d.threshold
  | none => none

def shows (ds : Directives) (r : Record) : Bool :=
  (ds.thresholdFor r.target).passes r.level &&
    ds.pattern.all fun p => p.occursIn r.message

end Directives
end CountedConfig
