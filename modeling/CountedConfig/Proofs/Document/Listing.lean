/-
What a listing shows.

An item of a listing shows its key before its first tab, since no key holds a blank, and shows its
value with nothing lost when the marker is a character that the value does not hold.  So a listing
can be read back (`map_entryOfItem_listing`), and no two documents that are read from inputs have
the same one (`listing_determines`).
-/
import CountedConfig.Document.Listing
import CountedConfig.Proofs.Shape
import Mathlib.Algebra.GroupWithZero.Nat

namespace CountedConfig

/-! ### Texts with spaces replaced -/

namespace Text

theorem replace_cons (c : Char) (replacement : Text) (d : Char) (t : Text) :
    replace c replacement (d :: t) = (if d = c then replacement else [d]) ++ replace c replacement t :=
  List.flatMap_cons

theorem replace_singleton (c r : Char) (t : Text) :
    replace c [r] t = t.map fun d => if d = c then r else d := by
  induction t with
  | nil => rfl
  | cons d t ih =>
    rw [replace_cons, ih, List.map_cons]
    split <;> rfl

/-- A replacement by a new character can be taken back. -/
theorem replace_replace_singleton {c r : Char} {t : Text} (h : r ∉ t) :
    replace r [c] (replace c [r] t) = t := by
  rw [replace_singleton, replace_singleton, List.map_map]
  refine (List.map_congr_left fun d hd => ?_).trans (List.map_id t)
  have hne : d ≠ r := fun e => h (e ▸ hd)
  by_cases hc : d = c
  · simp [hc]
  · simp [hc, hne]

theorem count_replace {c d : Char} {replacement : Text} (hne : d ≠ c) (hd : d ∉ replacement)
    (t : Text) : (replace c replacement t).count d = t.count d := by
  induction t with
  | nil => rfl
  | cons x t ih =>
    rw [replace_cons, List.count_append, ih, List.count_cons]
    by_cases hx : x = c
    · have hxd : x ≠ d := fun e => hne (e ▸ hx)
      rw [if_pos hx, List.count_eq_zero.2 hd, if_neg (by simpa using hxd)]
      omega
    · rw [if_neg hx, List.count_singleton]
      omega

theorem count_ofLines (lines : List Text) :
    (ofLines lines).count '\n' = (lines.map fun l => 1 + l.count '\n').sum := by
  induction lines with
  | nil => rfl
  | cons l lines ih =>
    have hcons : ofLines (l :: lines) = l ++ ['\n'] ++ ofLines lines := List.flatMap_cons
    rw [hcons, List.count_append, List.count_append, ih, List.map_cons, List.sum_cons,
      List.count_singleton_self]
    omega

theorem Visible.not_mem {t : Text} (h : Visible t) {c : Char} (hc : isBlank c = true) : c ∉ t := by
  intro hm
  rw [h c hm] at hc
  exact absurd hc (by decide)

end Text

namespace Document

/-! ### Items -/

/-- The key that an item shows: what stands between its first bar and the bar in front of its
first tab. -/
def keyOfItem (item : Text) : Text := (item.tail.takeWhile (· ≠ '\t')).dropLast

/-- The entry that an item shows where a character stands for the spaces. -/
def entryOfItem (c : Char) (item : Text) : Text × Text :=
  let key := keyOfItem item
  (key, Text.replace c [' '] (item.drop (key.length + 6)).dropLast)

theorem keyOfItem_listEntry {marker : Text} {e : Text × Text} (h : '\t' ∉ e.1) :
    keyOfItem (listEntry marker e) = e.1 := by
  have htail : (listEntry marker e).tail =
      (e.1 ++ ['|']) ++ '\t' :: (":\t|".toList ++ Text.replace ' ' marker e.2 ++ ['|']) := by
    simp [listEntry]
  have hkey : ∀ c ∈ e.1 ++ ['|'], decide (c ≠ '\t') = true := by
    intro c hc
    rw [decide_eq_true_eq]
    rintro rfl
    rcases List.mem_append.1 hc with hc | hc
    · exact h hc
    · exact absurd hc (by decide)
  rw [keyOfItem, htail, List.takeWhile_append_of_pos hkey, List.takeWhile_cons_of_neg (by decide),
    List.append_nil, List.dropLast_concat]

theorem entryOfItem_listEntry {c : Char} {e : Text × Text} (h : '\t' ∉ e.1) (hc : c ∉ e.2) :
    entryOfItem c (listEntry [c] e) = e := by
  have hdrop : (listEntry [c] e).drop (e.1.length + 6) = Text.replace ' ' [c] e.2 ++ ['|'] := by
    have hsplit : listEntry [c] e =
        ('|' :: e.1 ++ "|\t:\t|".toList) ++ (Text.replace ' ' [c] e.2 ++ ['|']) := by
      simp [listEntry]
    rw [hsplit]
    exact List.drop_left' (by simp)
  simp only [entryOfItem, keyOfItem_listEntry h, hdrop, List.dropLast_concat,
    Text.replace_replace_singleton hc]

/-- Neither the key nor the marker brings a newline into an item. -/
theorem count_listEntry {marker : Text} {e : Text × Text} (h : '\n' ∉ e.1) (hm : '\n' ∉ marker) :
    (listEntry marker e).count '\n' = e.2.count '\n' := by
  have hsplit : listEntry marker e =
      ['|'] ++ e.1 ++ "|\t:\t|".toList ++ Text.replace ' ' marker e.2 ++ ['|'] := rfl
  have hbars : "|\t:\t|".toList.count '\n' = 0 := by decide
  rw [hsplit, List.count_append, List.count_append, List.count_append, List.count_append,
    List.count_eq_zero.2 h, Text.count_replace (by decide) hm, hbars]
  simp

/-! ### Listings -/

section

variable {d d' : Document} {marker : Text} {c : Char}

theorem map_keyOfItem_listing (h : ∀ e ∈ d.entries, '\t' ∉ e.1) :
    (d.listing marker).map keyOfItem = d.keys := by
  rw [listing, List.map_map, keys]
  exact List.map_congr_left fun e he => keyOfItem_listEntry (h e he)

theorem map_entryOfItem_listing (h : ∀ e ∈ d.entries, '\t' ∉ e.1)
    (hc : ∀ e ∈ d.entries, c ∉ e.2) : (d.listing [c]).map (entryOfItem c) = d.entries := by
  rw [listing, List.map_map]
  refine (List.map_congr_left fun e he => ?_).trans (List.map_id d.entries)
  exact entryOfItem_listEntry (h e he) (hc e he)

theorem count_ofLines_listing (h : ∀ e ∈ d.entries, '\n' ∉ e.1) (hm : '\n' ∉ marker) :
    (Text.ofLines (d.listing marker)).count '\n' =
      (d.entries.map fun e => 1 + e.2.count '\n').sum := by
  rw [Text.count_ofLines, listing, List.map_map]
  refine congrArg List.sum (List.map_congr_left fun e he => ?_)
  exact congrArg (1 + ·) (count_listEntry (h e he) hm)

theorem tab_not_mem_of_parse {origin : Text} {b : Bytes} (h : parse origin b = .ok d) :
    ∀ e ∈ d.entries, '\t' ∉ e.1 :=
  fun e he => (entryShape_of_parse h e he).key.visible.not_mem (by decide)

/-- Documents that are read from inputs and are listed alike, by a character that none of their
values holds, are the same.  Whatever the marker is, a listing has one item for each entry, and
the keys that the items show are in order. -/
theorem listing_determines {origin origin' : Text} {b b' : Bytes} (hd : parse origin b = .ok d)
    (hd' : parse origin' b' = .ok d') (hc : ∀ e ∈ d.entries, c ∉ e.2)
    (hc' : ∀ e ∈ d'.entries, c ∉ e.2) :
    (d.listing [c] = d'.listing [c] → d = d') ∧
      (d.listing [c]).map (entryOfItem c) = d.entries ∧
      ∀ marker, (d.listing marker).length = d.size ∧
        (d.listing marker).map keyOfItem = d.keys ∧
        (d.listing marker).Pairwise fun i j => keyOfItem i < keyOfItem j := by
  have htab := tab_not_mem_of_parse hd
  have hread := map_entryOfItem_listing htab hc
  have hread' := map_entryOfItem_listing (tab_not_mem_of_parse hd') hc'
  refine ⟨fun h => ?_, hread, fun marker => ⟨List.length_map _, map_keyOfItem_listing htab, ?_⟩⟩
  · have hentries : d.entries = d'.entries := by rw [← hread, ← hread', h]
    rw [← d.ofList_entries, ← d'.ofList_entries, hentries]
  · refine List.pairwise_map.1 ?_
    rw [map_keyOfItem_listing htab]
    exact d.keys_pairwise_lt

/-- A value holds what stands between a key and a value in an item, and one of the documents had
another value under its key before. -/
theorem listing_determines_bars :
    let value := "1|\t:\t|2 3".toList
    let d := ofList [(['k'], value), (['b'], ['x'])]
    let d' := ofList [(['b'], ['x']), (['k'], ['0']), (['k'], value)]
    parse [] (Text.encode "k:=1|\t:\t|2 3\nb=x\n".toList) = .ok d ∧
      parse ['f'] (Text.encode "b=x\nk=0\nk:9c=1|\t:\t|2 3\n".toList) = .ok d' ∧
      (∀ e ∈ d.entries, '.' ∉ e.2) ∧ d.listing ['.'] = d'.listing ['.'] ∧ d = d' ∧
      (d.listing ['.']).map (entryOfItem '.') = [(['b'], ['x']), (['k'], value)] := by
  intro value d d'
  have hd : parse [] (Text.encode "k:=1|\t:\t|2 3\nb=x\n".toList) = .ok d := by
    decide +kernel +zetaReduce
  have hd' : parse ['f'] (Text.encode "b=x\nk=0\nk:9c=1|\t:\t|2 3\n".toList) = .ok d' := by
    decide +kernel +zetaReduce
  have hc : ∀ e ∈ d.entries, '.' ∉ e.2 := by decide +kernel +zetaReduce
  have hc' : ∀ e ∈ d'.entries, '.' ∉ e.2 := by decide +kernel +zetaReduce
  have hlisting : d.listing ['.'] = d'.listing ['.'] := by decide +kernel +zetaReduce
  have hentries : d.entries = [(['b'], ['x']), (['k'], value)] := by decide +kernel +zetaReduce
  obtain ⟨hequal, hread, -⟩ := listing_determines hd hd' hc hc'
  exact ⟨hd, hd', hc, hlisting, hequal hlisting, hread.trans hentries⟩

end

end Document
end CountedConfig
