/-
A document is what it gives for each key.

The entries stand in the order of their keys, each key once, so two documents that
give the same value for every key have the same entries (`ext_get?`).  Storing
changes what one key gives (`get?_insert`) and tells what it gave before (`store_eq`),
and of several entries that are stored the last one of a key counts (`get?_insertAll`).
-/
import CountedConfig.Document

namespace CountedConfig
namespace Document

/-! ### Looking up in ordered entries -/

theorem lookup_cons (k : Text) (entry : Text × Text) (rest : List (Text × Text)) :
    (entry :: rest).lookup k = if k = entry.1 then some entry.2 else rest.lookup k := by
  obtain ⟨key, value⟩ := entry
  rw [List.lookup_cons]
  by_cases h : k = key
  · have hb : (k == key) = true := by simpa using h
    rw [hb, if_pos h]
  · have hb : (k == key) = false := by simpa using h
    rw [hb, if_neg h]

theorem lookup_place (key value k : Text) (entries : List (Text × Text)) :
    (place key value entries).lookup k = if k = key then some value else entries.lookup k := by
  induction entries with
  | nil => exact lookup_cons k (key, value) []
  | cons entry rest ih =>
    unfold place
    split
    · exact lookup_cons k (key, value) (entry :: rest)
    · split
      · rename_i he
        rw [lookup_cons, lookup_cons, ← he]
        by_cases hk : k = key
        · simp [hk]
        · simp [hk]
      · rename_i he
        rw [lookup_cons, lookup_cons, ih]
        by_cases hk : k = entry.1
        · have hne : k ≠ key := fun e => he (e ▸ hk)
          simp [hk, Ne.symm he]
        · simp [hk]

theorem lookup_eq_none {k : Text} {entries : List (Text × Text)}
    (h : ∀ e ∈ entries, k < e.1) : entries.lookup k = none := by
  induction entries with
  | nil => rfl
  | cons entry rest ih =>
    have hb := h entry List.mem_cons_self
    have hne : k ≠ entry.1 := fun e => List.lt_irrefl k (by rwa [← e] at hb)
    rw [lookup_cons, if_neg hne]
    exact ih fun e he => h e (List.mem_cons_of_mem entry he)

/-- No key that comes before the first one of ordered entries is found in them. -/
theorem lookup_eq_none_of_before {k : Text} {entry : Text × Text} {rest : List (Text × Text)}
    (h : (entry :: rest).Pairwise fun a b => a.1 < b.1)
    (hb : k < entry.1) : (entry :: rest).lookup k = none := by
  refine lookup_eq_none fun e he => ?_
  rcases List.mem_cons.1 he with rfl | he
  · exact hb
  · exact List.lt_trans hb ((List.pairwise_cons.1 h).1 e he)

/-- The first key of ordered entries comes before every other key that is found in them. -/
theorem not_before_of_lookup {k : Text} {entry : Text × Text} {rest : List (Text × Text)}
    (h : (entry :: rest).Pairwise fun a b => a.1 < b.1)
    (hk : (entry :: rest).lookup k ≠ none) : ¬ k < entry.1 :=
  fun hb => hk (lookup_eq_none_of_before h hb)

theorem eq_of_lookup {l m : List (Text × Text)}
    (hl : l.Pairwise fun a b => a.1 < b.1)
    (hm : m.Pairwise fun a b => a.1 < b.1)
    (h : ∀ k, l.lookup k = m.lookup k) : l = m := by
  induction l generalizing m with
  | nil =>
    cases m with
    | nil => rfl
    | cons b m =>
      have hb := h b.1
      rw [lookup_cons, if_pos rfl] at hb
      simp at hb
  | cons a l ih =>
    cases m with
    | nil =>
      have ha := h a.1
      rw [lookup_cons, if_pos rfl] at ha
      simp at ha
    | cons b m =>
      -- Each first key is found in the other entries, so neither comes before the other.
      have hab : ¬ a.1 < b.1 :=
        not_before_of_lookup hm (by rw [← h, lookup_cons, if_pos rfl]; simp)
      have hba : ¬ b.1 < a.1 :=
        not_before_of_lookup hl (by rw [h, lookup_cons, if_pos rfl]; simp)
      have hkey : a.1 = b.1 := List.le_antisymm (List.not_lt.1 hba) (List.not_lt.1 hab)
      have hvalue : a.2 = b.2 := by
        have ha := h a.1
        rw [lookup_cons, if_pos rfl, lookup_cons, if_pos hkey] at ha
        exact Option.some.inj ha
      have hrest : l = m := by
        refine ih (List.pairwise_cons.1 hl).2 (List.pairwise_cons.1 hm).2 fun k => ?_
        by_cases hk : k = a.1
        · subst hk
          rw [lookup_eq_none (List.pairwise_cons.1 hl).1,
            lookup_eq_none (hkey ▸ (List.pairwise_cons.1 hm).1)]
        · have ht := h k
          rwa [lookup_cons, if_neg hk, lookup_cons, if_neg (hkey ▸ hk)] at ht
      rw [hrest, Prod.ext hkey hvalue]

/-! ### Documents -/

theorem ext_get? {d e : Document} (h : ∀ k, d.get? k = e.get? k) : d = e := by
  obtain ⟨entries, ordered⟩ := d
  obtain ⟨others, ordered'⟩ := e
  obtain rfl : entries = others := eq_of_lookup ordered ordered' h
  rfl

theorem get?_insert (d : Document) (key value k : Text) :
    (d.insert key value).get? k = if k = key then some value else d.get? k :=
  lookup_place key value k d.entries

theorem insertAll_cons (d : Document) (e : Text × Text) (entries : List (Text × Text)) :
    d.insertAll (e :: entries) = (d.insert e.1 e.2).insertAll entries := rfl

theorem insertAll_append (d : Document) (entries others : List (Text × Text)) :
    d.insertAll (entries ++ others) = (d.insertAll entries).insertAll others :=
  List.foldl_append

/-- An entry was there or has been stored. -/
theorem mem_entries_insertAll {d : Document} {entries : List (Text × Text)} {e : Text × Text}
    (h : e ∈ (d.insertAll entries).entries) : e ∈ d.entries ∨ e ∈ entries := by
  induction entries generalizing d with
  | nil => exact .inl h
  | cons first rest ih =>
    rw [insertAll_cons] at h
    rcases ih h with hd | hr
    · rcases mem_place hd with rfl | hd
      · exact .inr List.mem_cons_self
      · exact .inl hd
    · exact .inr (List.mem_cons_of_mem first hr)

theorem mem_entries_ofList {entries : List (Text × Text)} {e : Text × Text}
    (h : e ∈ (ofList entries).entries) : e ∈ entries := by
  rcases mem_entries_insertAll h with hd | he
  · exact absurd hd List.not_mem_nil
  · exact he

/-- What was there is given for the keys that were not stored again. -/
theorem get?_insertAll (d : Document) (entries : List (Text × Text)) (k : Text) :
    (d.insertAll entries).get? k = ((ofList entries).get? k).or (d.get? k) := by
  induction entries generalizing d with
  | nil => rfl
  | cons e rest ih =>
    have ho : ofList (e :: rest) = (empty.insert e.1 e.2).insertAll rest := rfl
    rw [insertAll_cons, ih, ho, ih (empty.insert e.1 e.2), get?_insert, get?_insert]
    by_cases hk : k = e.1
    · simp [hk]
    · have hn : empty.get? k = none := rfl
      simp [hk, hn]

/-- Ordered entries give what the document of them gives. -/
theorem get?_ofList {entries : List (Text × Text)}
    (h : entries.Pairwise fun a b => a.1 < b.1) (k : Text) :
    (ofList entries).get? k = entries.lookup k := by
  induction entries with
  | nil => rfl
  | cons e rest ih =>
    rw [ofList, insertAll_cons, get?_insertAll, ih (List.pairwise_cons.1 h).2, get?_insert,
      lookup_cons]
    by_cases hk : k = e.1
    · subst hk
      rw [lookup_eq_none (List.pairwise_cons.1 h).1]
      simp
    · have hn : empty.get? k = none := rfl
      simp [hk, hn]

theorem ofList_entries (d : Document) : ofList d.entries = d :=
  ext_get? fun k => get?_ofList d.ordered k

/-- Storing the entries of a document comes to storing what it was made of. -/
theorem insertAll_entries_ofList (d : Document) (entries : List (Text × Text)) :
    d.insertAll (ofList entries).entries = d.insertAll entries := by
  refine ext_get? fun k => ?_
  rw [get?_insertAll, get?_insertAll, ofList_entries]

/-- Of the entries that were stored under a key the last one counts. -/
theorem get?_ofList_eq_lookup_reverse (entries : List (Text × Text)) (k : Text) :
    (ofList entries).get? k = entries.reverse.lookup k := by
  induction entries with
  | nil => rfl
  | cons e rest ih =>
    have hn : empty.get? k = none := rfl
    rw [ofList, insertAll_cons, get?_insertAll, ih, get?_insert, hn, List.reverse_cons,
      List.lookup_append, lookup_cons]
    rfl

/-! ### The number of entries -/

theorem length_place (key value : Text) {entries : List (Text × Text)}
    (h : entries.Pairwise fun a b => a.1 < b.1) :
    (place key value entries).length =
      if (entries.lookup key).isSome then entries.length else entries.length + 1 := by
  induction entries with
  | nil => rfl
  | cons entry rest ih =>
    unfold place
    split
    · rename_i hb
      rw [lookup_eq_none_of_before h hb]
      rfl
    · split
      · rename_i hk
        rw [lookup_cons, if_pos hk]
        rfl
      · rename_i hk
        rw [lookup_cons, if_neg hk, List.length_cons, ih (List.pairwise_cons.1 h).2,
          List.length_cons]
        split <;> rfl

/-- Storing adds an entry where there was none of that key. -/
theorem size_insert (d : Document) (key value : Text) :
    (d.insert key value).size = if d.contains key then d.size else d.size + 1 :=
  length_place key value d.ordered

/-! ### The value that gives way -/

/-- In ordered entries the search for a key may stop at the first greater one. -/
theorem displaced?_eq_lookup (key : Text) {entries : List (Text × Text)}
    (h : entries.Pairwise fun a b => a.1 < b.1) :
    displaced? key entries = entries.lookup key := by
  induction entries with
  | nil => rfl
  | cons entry rest ih =>
    unfold displaced?
    split
    · rename_i hb
      exact (lookup_eq_none_of_before h hb).symm
    · rw [lookup_cons, ih (List.pairwise_cons.1 h).2]

theorem store_eq (d : Document) (key value : Text) :
    d.store key value = (d.get? key, d.insert key value) := by
  rw [store, displaced?_eq_lookup key d.ordered, get?]

/-! ### Keys and entries -/

theorem keys_pairwise_lt (d : Document) : d.keys.Pairwise (· < ·) :=
  List.pairwise_map.2 d.ordered

/-- A document lists under a key what it gives for the key. -/
theorem mem_entries_iff {d : Document} {key value : Text} :
    (key, value) ∈ d.entries ↔ d.get? key = some value := by
  constructor
  · intro h
    obtain ⟨front, back, hsplit⟩ := List.append_of_mem h
    have hordered := d.ordered
    rw [hsplit] at hordered
    refine List.lookup_eq_some_iff.2 ⟨front, back, hsplit, fun e he => ?_⟩
    have hbefore := (List.pairwise_append.1 hordered).2.2 e he (key, value) List.mem_cons_self
    rw [bne_iff_ne]
    rintro rfl
    exact List.lt_irrefl _ hbefore
  · intro h
    obtain ⟨front, back, hsplit, -⟩ := List.lookup_eq_some_iff.1 h
    rw [hsplit]
    exact List.mem_append_right front List.mem_cons_self

theorem mem_keys_iff {d : Document} {key : Text} : key ∈ d.keys ↔ d.get? key ≠ none := by
  rw [Option.ne_none_iff_exists', keys, List.mem_map]
  constructor
  · rintro ⟨e, he, rfl⟩
    exact ⟨e.2, mem_entries_iff.1 he⟩
  · rintro ⟨value, h⟩
    exact ⟨(key, value), mem_entries_iff.2 h, rfl⟩

end Document
end CountedConfig
