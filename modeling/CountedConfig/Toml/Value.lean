/-
TOML values, and the rules by which a document builds up its tables.

A table may be defined once.  What a later line may still add to a table depends
on how the table came to be, so each table keeps its origin:

* a table written as a value is complete;
* a table opened by a header takes what stands below that header;
* a table that a dotted key made takes further dotted keys;
* a table that only a longer header mentioned may still be opened by its own.
-/
import CountedConfig.Toml.Key
import CountedConfig.Toml.Scalar

namespace CountedConfig
namespace Toml

/-- How a table came to be. -/
inductive Origin where
  | written
  | header
  | dotted
  | implied
  deriving DecidableEq, Repr

/-- A TOML value.  Values that are held by others come with their places. -/
inductive Value where
  | scalar (s : Scalar)
  | array (items : List (Span × Value))
  | table (origin : Origin) (entries : List (Key × Span × Value))
  /-- The tables that headers in double brackets opened under one key. -/
  | tables (items : List (Span × List (Key × Span × Value)))

/-- The keys and values of a table, in the order in which they were defined. -/
abbrev Entries := List (Key × Span × Value)

namespace Value

/-- What a value is called that a path cannot lead through. -/
def kind : Value → Closed
  | .scalar s => s.kind
  | .array _ => .array
  | .table .. => .inlineTable
  | .tables _ => .array

end Value

namespace Entries

def get? (key : Text) (entries : Entries) : Option (Span × Value) :=
  (entries.find? fun entry => entry.1.text = key).map (·.2)

/-- Stores a value under a key, at the place of the one that was there. -/
def put (key : Key) (span : Span) (value : Value) : Entries → Entries
  | [] => [(key, span, value)]
  | entry :: rest =>
    if entry.1.text = key.text then (entry.1, span, value) :: rest
    else entry :: put key span value rest

/-- The key cannot be defined where it is. -/
def refuse {α : Type} (fault : Fault) (key : Key) : Except Error α :=
  .error ⟨fault, some key.span⟩

/-- Changes the entries that a path leads to, making the tables that the path is the
first to mention.  Of tables in double brackets the last is meant.  A dotted key leads
into tables that are implied or were made by dotted keys, and a header into all but
those that were written as values.  The change is told how the table came to be. -/
def within (isDotted : Bool) (isInline : Bool) :
    List Key → Origin → (Origin → Entries → Except Error Entries) → Entries → Except Error Entries
  | [], origin, change, entries => change origin entries
  | key :: more, _, change, entries =>
    match entries.get? key.text with
    | none =>
      let origin := if isDotted then .dotted else .implied
      (within isDotted isInline more origin change []).map fun inner =>
        entries.put key key.span (.table origin inner)
    | some (span, .table origin inner) =>
      if origin = .written then
        if isInline then refuse .duplicate key else refuse (.notExtensible .inlineTable) key
      else if isDotted ∧ origin = .header then refuse .duplicate key
      else
        (within isDotted isInline more origin change inner).map fun inner =>
          entries.put key span (.table origin inner)
    | some (span, .tables items) =>
      match items.getLast? with
      | none => refuse .duplicate key
      | some (place, inner) =>
        (within isDotted isInline more .header change inner).map fun inner =>
          entries.put key span (.tables (items.dropLast ++ [(place, inner)]))
    | some (_, value) => refuse (.notExtensible value.kind) key

def add (key : Key) (span : Span) (value : Value) (entries : Entries) : Except Error Entries :=
  match entries.get? key.text with
  | none => .ok (entries.put key span value)
  | some _ => refuse .duplicate key

/-- Defines the value of a path.  The table that a dotted key leads to has to be made
by dotted keys. -/
def define (isInline : Bool) (path : List Key) (key : Key) (span : Span) (value : Value)
    (entries : Entries) : Except Error Entries :=
  within true isInline path .header (fun origin inner =>
    if path ≠ [] ∧ origin ≠ .dotted then refuse .duplicate key else inner.add key span value) entries

/-- What is there of the table of a header: nothing, or what longer headers made of it. -/
def opened (key : Key) (entries : Entries) : Except Error Entries :=
  match entries.get? key.text with
  | none => .ok []
  | some (_, .table .implied inner) => .ok inner
  | some _ => refuse .duplicate key

/-- One more table of a header in double brackets. -/
def addElement (key : Key) (span : Span) (inner entries : Entries) : Except Error Entries :=
  match entries.get? key.text with
  | none => .ok (entries.put key span (.tables [(span, inner)]))
  | some (place, .tables items) => .ok (entries.put key place (.tables (items ++ [(span, inner)])))
  | some _ => refuse .duplicate key

end Entries
end Toml
end CountedConfig
