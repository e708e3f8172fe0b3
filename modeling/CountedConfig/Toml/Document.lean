/-
Reading a TOML document.

The parts of a document are given their meaning from front to back: the keys and the
values, and the tables that they build up.
-/
import CountedConfig.Toml.Value

namespace CountedConfig
namespace Toml

namespace Written

def span : Written → Span
  | .scalar l => l.span
  | .array span _ => span
  | .table span _ => span

mutual

def value : Written → Except Error Value
  | .scalar l => l.scalar.map Value.scalar
  | .array _ items => (values items).map Value.array
  | .table _ members => (entries members []).map (Value.table .written)

def values : List Written → Except Error (List (Span × Value))
  | [] => .ok []
  | item :: more => do
    let value ← item.value
    let rest ← values more
    return (item.span, value) :: rest

/-- The members of a table in braces, added to those that came before. -/
def entries : List (KeyPath × Written) → Entries → Except Error Entries
  | [], before => .ok before
  | (path, written) :: more, before => do
    let (path, key) ← Key.ofPath path
    let value ← written.value
    entries more (← Entries.define true path key written.span value before)

end

end Written

structure Section where
  header : Option (Bool × KeyPath × Span)
  pairs : List (KeyPath × Written)

namespace Section

/-- The sections of a document.  The first has no header. -/
def ofParts : List Part → List Section
  | [] => [⟨none, []⟩]
  | part :: more =>
    match part, ofParts more with
    | .pair path value, s :: others => { s with pairs := (path, value) :: s.pairs } :: others
    | .header isArray path span, s :: others =>
      ⟨none, []⟩ :: { s with header := some (isArray, path, span) } :: others
    | _, [] => []

end Section

namespace Entries

def addPairs : List (KeyPath × Written) → Entries → Except Error Entries
  | [], entries => .ok entries
  | (path, written) :: more, entries => do
    let (path, key) ← Key.ofPath path
    let value ← written.value
    addPairs more (← entries.define false path key written.span value)

/-- Adds a section.  Whether there can be a table for the header is seen before the
pairs are read, but for a header in double brackets it is seen behind them. -/
def addSection (entries : Entries) (s : Section) : Except Error Entries :=
  match s.header with
  | none => entries.addPairs s.pairs
  | some (isArray, path, span) => do
    let (path, key) ← Key.ofPath path
    if isArray then
      let inner ← addPairs s.pairs []
      entries.within false false path .header fun _ parent =>
        addElement key span inner parent
    else
      entries.within false false path .header fun _ parent => do
        let inner ← addPairs s.pairs (← parent.opened key)
        return parent.put key span (.table .header inner)

end Entries
end Toml
end CountedConfig
