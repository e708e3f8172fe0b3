/-
The writes that make a document.

Entries are stored in a document one by one, or the document gives way to one that is collected
from a list of entries.  Whatever is done, the document is the one collected from the assignments
that were made since (`written_eq_ofList`).  It is therefore told by the last assignment of each
key, and the order in which different keys were assigned leaves no trace (`written_canonical`).
-/
import CountedConfig.Proofs.Document.Lookup
import Mathlib.Data.Finset.Card
import Mathlib.Data.Finset.Dedup

namespace CountedConfig

/-- What is done to a document: an entry is stored in it, or it gives way to the document of
some entries. -/
inductive Write where
  | store (key value : Text)
  | collect (entries : List (Text × Text))

namespace Write

def apply (d : Document) : Write → Document
  | .store key value => (d.store key value).2
  | .collect entries => .ofList entries

/-- The assignments that count behind a write, in the order in which they were made. -/
def assign (before : List (Text × Text)) : Write → List (Text × Text)
  | .store key value => before ++ [(key, value)]
  | .collect entries => entries

end Write

/-- The value is the one that was assigned to the key last. -/
def LastAssigned (assigned : List (Text × Text)) (key value : Text) : Prop :=
  ∃ before after, assigned = before ++ (key, value) :: after ∧ ∀ e ∈ after, e.1 ≠ key

theorem lastAssigned_iff {assigned : List (Text × Text)} {key value : Text} :
    LastAssigned assigned key value ↔ assigned.reverse.lookup key = some value := by
  rw [List.lookup_eq_some_iff]
  constructor
  · rintro ⟨before, after, rfl, hafter⟩
    refine ⟨after.reverse, before.reverse, by simp, fun e he => ?_⟩
    exact bne_iff_ne.2 (hafter e (List.mem_reverse.1 he)).symm
  · rintro ⟨after, before, hsplit, hafter⟩
    have hassigned := congrArg List.reverse hsplit
    rw [List.reverse_reverse, List.reverse_append, List.reverse_cons, List.append_assoc] at hassigned
    refine ⟨before.reverse, after.reverse, hassigned, fun e he => ?_⟩
    exact (bne_iff_ne.1 (hafter e (List.mem_reverse.1 he))).symm

namespace Document

/-- The document that writes make of an empty one. -/
def written (writes : List Write) : Document := writes.foldl Write.apply .empty

/-- The assignments of some writes that count at the end of them. -/
def assignments (writes : List Write) : List (Text × Text) := writes.foldl Write.assign []

theorem apply_ofList (assigned : List (Text × Text)) (w : Write) :
    w.apply (ofList assigned) = ofList (w.assign assigned) := by
  cases w with
  | store key value =>
    have happend : ofList (assigned ++ [(key, value)]) = (ofList assigned).insert key value :=
      insertAll_append .empty assigned [(key, value)]
    rw [Write.apply, store_eq, Write.assign, happend]
  | collect entries => rfl

theorem foldl_apply_ofList (assigned : List (Text × Text)) (writes : List Write) :
    writes.foldl Write.apply (ofList assigned) = ofList (writes.foldl Write.assign assigned) := by
  induction writes generalizing assigned with
  | nil => rfl
  | cons w writes ih => rw [List.foldl_cons, List.foldl_cons, apply_ofList, ih]

theorem written_eq_ofList (writes : List Write) :
    written writes = ofList (assignments writes) :=
  foldl_apply_ofList [] writes

theorem get?_ofList_eq_some_iff {assigned : List (Text × Text)} {key value : Text} :
    (ofList assigned).get? key = some value ↔ LastAssigned assigned key value := by
  rw [get?_ofList_eq_lookup_reverse, lastAssigned_iff]

theorem get?_ofList_eq_none_iff {assigned : List (Text × Text)} {key : Text} :
    (ofList assigned).get? key = none ↔ key ∉ assigned.map Prod.fst := by
  rw [get?_ofList_eq_lookup_reverse, List.lookup_eq_none_iff]
  constructor
  · intro h hm
    obtain ⟨e, he, rfl⟩ := List.mem_map.1 hm
    exact absurd rfl (bne_iff_ne.1 (h e (List.mem_reverse.2 he)))
  · intro h e he
    refine bne_iff_ne.2 fun hkey => h (List.mem_map.2 ⟨e, List.mem_reverse.1 he, hkey.symm⟩)

theorem mem_keys_ofList {assigned : List (Text × Text)} {key : Text} :
    key ∈ (ofList assigned).keys ↔ key ∈ assigned.map Prod.fst := by
  rw [mem_keys_iff, ne_eq, get?_ofList_eq_none_iff, not_not]

/-- A document has as many entries as there are keys that something was assigned to. -/
theorem size_ofList (assigned : List (Text × Text)) :
    (ofList assigned).size = (assigned.map Prod.fst).toFinset.card := by
  have hnodup : (ofList assigned).keys.Nodup := by
    refine (ofList assigned).keys_pairwise_lt.imp ?_
    rintro key _ hlt rfl
    exact List.lt_irrefl key hlt
  have hset : (ofList assigned).keys.toFinset = (assigned.map Prod.fst).toFinset := by
    ext key
    rw [List.mem_toFinset, List.mem_toFinset, mem_keys_ofList]
  rw [← hset, List.toFinset_card_of_nodup hnodup, keys, List.length_map, size]

/-- What a document gives for a key is told by the assignments of that key. -/
theorem get?_ofList_filter (assigned : List (Text × Text)) (key : Text) :
    (ofList (assigned.filter (·.1 = key))).get? key = (ofList assigned).get? key := by
  have hlookup : ∀ entries : List (Text × Text),
      (entries.filter (·.1 = key)).lookup key = entries.lookup key := by
    intro entries
    induction entries with
    | nil => rfl
    | cons e rest ih =>
      by_cases he : e.1 = key
      · rw [List.filter_cons_of_pos (by simpa using he), lookup_cons, lookup_cons, ih]
      · rw [List.filter_cons_of_neg (by simpa using he), lookup_cons, if_neg (Ne.symm he), ih]
  rw [get?_ofList_eq_lookup_reverse, get?_ofList_eq_lookup_reverse, ← List.filter_reverse, hlookup]

/-- Writes make a document that lists each assigned key once, in the order of the code points,
with the value that was assigned to it last, and has as many entries as there are such keys.
Storing gives the value that was there and leaves the other keys alone.  Two documents are equal
exactly when they give the same for each key, so writes to different keys may change places. -/
theorem written_canonical (writes : List Write) :
    ((written writes).keys.Pairwise (· < ·) ∧
        ∀ key, key ∈ (written writes).keys ↔ key ∈ (assignments writes).map Prod.fst) ∧
      (∀ key value, ((key, value) ∈ (written writes).entries ↔
          LastAssigned (assignments writes) key value) ∧
        ((written writes).get? key = some value ↔ LastAssigned (assignments writes) key value)) ∧
      (∀ key, (written writes).get? key = none ↔ key ∉ (assignments writes).map Prod.fst) ∧
      (written writes).size = ((assignments writes).map Prod.fst).toFinset.card ∧
      (∀ key value, ((written writes).store key value).1 = (written writes).get? key ∧
        ∀ other, ((written writes).store key value).2.get? other =
          if other = key then some value else (written writes).get? other) ∧
      ∀ others, (written writes = written others ↔
          ∀ key, (written writes).get? key = (written others).get? key) ∧
        ((∀ key, (assignments writes).filter (·.1 = key) = (assignments others).filter (·.1 = key)) →
          written writes = written others) := by
  have hwritten := written_eq_ofList writes
  refine ⟨⟨keys_pairwise_lt _, fun key => ?_⟩, fun key value => ⟨?_, ?_⟩, fun key => ?_, ?_,
    fun key value => ⟨?_, fun other => ?_⟩, fun others => ⟨⟨?_, ext_get?⟩, fun h => ?_⟩⟩
  · rw [hwritten, mem_keys_ofList]
  · rw [mem_entries_iff, hwritten, get?_ofList_eq_some_iff]
  · rw [hwritten, get?_ofList_eq_some_iff]
  · rw [hwritten, get?_ofList_eq_none_iff]
  · rw [hwritten, size_ofList]
  · rw [store_eq]
  · rw [store_eq, get?_insert]
  · intro heq key
    rw [heq]
  · refine ext_get? fun key => ?_
    rw [hwritten, written_eq_ofList others, ← get?_ofList_filter, h key, get?_ofList_filter]

/-- What was stored before the collection is gone, a key of the collection is stored again, and
the writes to different keys have changed places. -/
theorem written_canonical_interleaved :
    let writes : List Write := [.store ['a'] ['0'], .store ['d'] ['0'],
      .collect [(['b'], ['1']), (['a'], ['2'])], .store ['c'] ['3'], .store ['b'] ['4']]
    let others : List Write := [.store ['b'] ['1'], .store ['b'] ['4'], .store ['c'] ['3'],
      .store ['a'] ['2']]
    (∀ key, (assignments writes).filter (·.1 = key) = (assignments others).filter (·.1 = key)) ∧
      written writes = written others ∧ (written writes).size = 3 ∧
      (written writes).get? ['b'] = some ['4'] ∧ (written writes).get? ['d'] = none := by
  intro writes others
  have hfilter : ∀ key,
      (assignments writes).filter (·.1 = key) = (assignments others).filter (·.1 = key) := by
    intro key
    simp only [writes, others, assignments, List.foldl_cons, List.foldl_nil, Write.assign,
      List.cons_append, List.nil_append, List.filter_cons, List.filter_nil]
    by_cases ha : ['a'] = key
    · subst ha
      decide
    · by_cases hb : ['b'] = key
      · subst hb
        decide
      · simp [ha, hb]
  obtain ⟨-, hget, hnone, hsize, -, hequal⟩ := written_canonical writes
  refine ⟨hfilter, (hequal others).2 hfilter, hsize.trans (by decide), ?_, ?_⟩
  · exact (hget ['b'] ['4']).2.2 ⟨[(['b'], ['1']), (['a'], ['2']), (['c'], ['3'])], [], rfl,
      fun _ he => absurd he List.not_mem_nil⟩
  · exact (hnone ['d']).2 (by decide)

end Document
end CountedConfig
