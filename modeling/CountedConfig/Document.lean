/-
A configuration document: values under unique keys.

The entries are kept in the order of their keys, of which the first different
characters decide and otherwise the lengths.  Two documents with the same values under
the same keys are therefore equal, whatever the order in which they were written.
-/
import CountedConfig.Text

namespace CountedConfig

structure Document where
  entries : List (Text × Text)
  /-- Each key once, in ascending order. -/
  ordered : entries.Pairwise fun a b => a.1 < b.1
  deriving DecidableEq

inductive LookupError where
  | missingKey (key : Text)
  deriving DecidableEq, Repr

namespace LookupError

def message : LookupError → Text
  | .missingKey key => "Missing required key: ".toList ++ key

end LookupError

namespace Document

/-- Puts an entry in its place, instead of one of the same key. -/
def place (key value : Text) : List (Text × Text) → List (Text × Text)
  | [] => [(key, value)]
  | entry :: rest =>
    if key < entry.1 then (key, value) :: entry :: rest
    else if key = entry.1 then (key, value) :: rest
    else entry :: place key value rest

theorem mem_place {key value : Text} {entries : List (Text × Text)} {e : Text × Text}
    (h : e ∈ place key value entries) : e = (key, value) ∨ e ∈ entries := by
  induction entries with
  | nil => simpa [place] using h
  | cons entry rest ih =>
    unfold place at h
    split at h
    · simpa using h
    · split at h
      · rcases List.mem_cons.1 h with h | h
        · exact .inl h
        · exact .inr (List.mem_cons_of_mem _ h)
      · rcases List.mem_cons.1 h with h | h
        · exact .inr (h ▸ List.mem_cons_self)
        · rcases ih h with h | h
          · exact .inl h
          · exact .inr (List.mem_cons_of_mem _ h)

theorem ordered_place (key value : Text) {entries : List (Text × Text)}
    (h : entries.Pairwise fun a b => a.1 < b.1) :
    (place key value entries).Pairwise fun a b => a.1 < b.1 := by
  induction entries with
  | nil => exact List.pairwise_singleton _ _
  | cons entry rest ih =>
    have hr := List.pairwise_cons.1 h
    unfold place
    split
    · rename_i hb
      refine List.pairwise_cons.2 ⟨fun e he => ?_, h⟩
      rcases List.mem_cons.1 he with rfl | he
      · exact hb
      · exact List.lt_trans hb (hr.1 e he)
    · rename_i hb
      split
      · rename_i hk
        exact List.pairwise_cons.2 ⟨fun e he => by simpa [hk] using hr.1 e he, hr.2⟩
      · rename_i hk
        refine List.pairwise_cons.2 ⟨fun e he => ?_, ih hr.2⟩
        rcases mem_place he with rfl | he
        · exact Decidable.byContradiction fun hlt =>
            hk (List.le_antisymm (List.not_lt.1 hlt) (List.not_lt.1 hb))
        · exact hr.1 e he

/-- The value that gives way when an entry is put in its place. -/
def displaced? (key : Text) : List (Text × Text) → Option Text
  | [] => none
  | entry :: rest =>
    if key < entry.1 then none
    else if key = entry.1 then some entry.2
    else displaced? key rest

def empty : Document := ⟨[], .nil⟩

def insert (d : Document) (key value : Text) : Document :=
  ⟨place key value d.entries, ordered_place key value d.ordered⟩

/-- Stores an entry, and tells which value it takes the place of. -/
def store (d : Document) (key value : Text) : Option Text × Document :=
  (displaced? key d.entries, d.insert key value)

def get? (d : Document) (key : Text) : Option Text := d.entries.lookup key

def getD (d : Document) (key fallback : Text) : Text := (d.get? key).getD fallback

/-- The value under a key that has to be there. -/
def require (d : Document) (key : Text) : Except LookupError Text :=
  match d.get? key with
  | some value => .ok value
  | none => .error (.missingKey key)

def contains (d : Document) (key : Text) : Bool := (d.get? key).isSome

def size (d : Document) : Nat := d.entries.length

def isEmpty (d : Document) : Bool := d.entries.isEmpty

def keys (d : Document) : List Text := d.entries.map Prod.fst

/-- Stores entries one after the other, so that of two with one key the later
stays. -/
def insertAll (d : Document) (entries : List (Text × Text)) : Document :=
  entries.foldl (fun d e => d.insert e.1 e.2) d

def ofList (entries : List (Text × Text)) : Document := empty.insertAll entries

end Document
end CountedConfig
