/-
The log of a reading.

Each turn tells what its line was, and then what became of it.  A reading that
succeeds closes with a count of the entries and of the physical lines.
-/
import CountedConfig.Log.Record
import CountedConfig.Reading
import CountedConfig.Text.Quoted

namespace CountedConfig

namespace LineKind

/-- The meaning of a line as log messages show it. -/
def describe : LineKind → Text
  | .comment => "Comment".toList
  | .blank => "Blank".toList
  | .unrecognized => "Unrecognized".toList
  | .counted unit key count fragment =>
    (match unit with
      | .lines => "MultiLineAssign".toList
      | .characters => "MultiCharAssign".toList) ++
      " \x7b key: ".toList ++ key.quoted ++ ", count: ".toList ++ Text.ofNat count ++
      ", first_fragment: ".toList ++ fragment.quoted ++ " \x7d".toList
  | .plain form key value =>
    (match form with
      | .raw => "RawAssign".toList
      | .simple => "SimpleAssign".toList) ++
      " \x7b key: ".toList ++ key.quoted ++ ", value: ".toList ++ value.quoted ++ " \x7d".toList

end LineKind

/-- Something worth a log record. -/
inductive Event where
  | classified (number : Nat) (kind : LineKind)
  /-- A line has no meaning and was passed over. -/
  | skipped (origin : Text) (number : Nat) (line : Text)
  | stored (key : Text) (size : Nat)
  | reassigned (key : Text)
  | parsed (entries : Nat) (origin : Text) (lines : Nat)
  deriving DecidableEq, Repr

namespace Event

def level : Event → Level
  | .classified .. => .trace
  | _ => .debug

/-- The part of the program that an event comes from. -/
def target : Event → Text
  | .parsed .. => "confline_engine::io".toList
  | _ => "confline_engine::parsing::builder".toList

def message : Event → Text
  | .classified number kind =>
    "line ".toList ++ Text.ofNat number ++ ": ".toList ++ kind.describe
  | .skipped origin number line =>
    origin ++ ':' :: Text.ofNat number ++ ": skipping unrecognized line ".toList ++ line.quoted
  | .stored key size => "set ".toList ++ key ++ " (".toList ++ Text.ofNat size ++ " chars)".toList
  | .reassigned key => key ++ " reassigned, keeping the later value".toList
  | .parsed entries origin lines =>
    "parsed ".toList ++ Text.ofNat entries ++ " entries from ".toList ++ origin ++ " (".toList ++
      Text.ofNat lines ++ " lines)".toList

def record (e : Event) : Record := ⟨e.level, e.target, e.message⟩

end Event

namespace Turn

def kind (t : Turn) : LineKind := LineKind.ofLine t.line

def apply (d : Document) (t : Turn) : Document :=
  match t.entry with
  | some (key, value) => d.insert key value
  | none => d

/-- What a turn has to tell, the document being as it was before. -/
def events (origin : Text) (d : Document) (t : Turn) : List Event :=
  .classified t.number t.kind ::
    match t.entry with
    | some (key, value) =>
      .stored key value.length :: if d.contains key then [.reassigned key] else []
    | none =>
      if t.kind = .unrecognized then [.skipped origin t.number (Text.trimEnd t.line)] else []

end Turn

namespace Run

def eventsFrom (origin : Text) : Document → List Turn → List Event
  | _, [] => []
  | d, t :: more => t.events origin d ++ eventsFrom origin (t.apply d) more

def closing (r : Run) : List Event :=
  match r.ending with
  | .complete => [.parsed (Document.ofList r.entries).size r.rest.origin r.rest.lineNumber]
  | .unreadable _ => []
  | .interrupted line number _ => [.classified number (LineKind.ofLine line)]

def log (r : Run) : List Event := eventsFrom r.rest.origin .empty r.turns ++ r.closing

end Run
end CountedConfig
