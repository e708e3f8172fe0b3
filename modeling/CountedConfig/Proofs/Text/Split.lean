/-
The pieces of a text.

Whatever stands in a list stands between its separators or is one (`exists_mem_splitOn`), and no
piece holds a separator (`not_mem_of_mem_splitOn`).  A text is the pieces between its newlines, each
with a newline behind it again, and one newline too many (`ofLines_splitOn`).  A cut at a mark is
one at its first occurrence (`cut?_eq_some_iff`).
-/
import CountedConfig.Text

namespace CountedConfig

section Pieces

variable {α : Type} {c d : α} {t piece : List α} {pieces : List (List α)}

theorem mem_of_mem_intercalate (h : d ∈ List.intercalate [c] pieces) :
    d = c ∨ ∃ p ∈ pieces, d ∈ p := by
  induction pieces with
  | nil => exact absurd h List.not_mem_nil
  | cons first more ih =>
    cases more with
    | nil =>
      rw [List.intercalate_singleton] at h
      exact .inr ⟨first, List.mem_cons_self, h⟩
    | cons second more =>
      rw [List.intercalate_cons_cons, List.append_assoc, List.singleton_append, List.mem_append,
        List.mem_cons] at h
      rcases h with h | h | h
      · exact .inr ⟨first, List.mem_cons_self, h⟩
      · exact .inl h
      · exact (ih h).imp_right fun ⟨p, hp, hd⟩ => ⟨p, List.mem_cons_of_mem first hp, hd⟩

theorem infix_intercalate (h : piece ∈ pieces) : piece <:+: List.intercalate [c] pieces := by
  induction pieces with
  | nil => exact absurd h List.not_mem_nil
  | cons first more ih =>
    cases more with
    | nil => exact ⟨[], [], by simp [List.mem_singleton.1 h]⟩
    | cons second more =>
      rw [List.intercalate_cons_cons]
      rcases List.mem_cons.1 h with rfl | h
      · exact ((List.prefix_append piece [c]).trans (List.prefix_append _ _)).isInfix
      · exact (ih h).trans (List.suffix_append (first ++ [c]) _).isInfix

variable [BEq α]

theorem length_splitOn (c : α) (t : List α) : (t.splitOn c).length = t.count c + 1 := by
  induction t with
  | nil => rfl
  | cons d t ih =>
    rw [List.splitOn_cons_eq_if_modifyHead, List.count_cons]
    split
    · rw [List.length_cons, ih]
    · rw [List.length_modifyHead, ih, Nat.add_zero]

variable [LawfulBEq α]

theorem exists_mem_splitOn (h : d ∈ t) (hne : d ≠ c) : ∃ piece ∈ t.splitOn c, d ∈ piece := by
  have hjoined : List.intercalate [c] (t.splitOn c) = t := List.intercalate_splitOn c
  rw [← hjoined] at h
  exact (mem_of_mem_intercalate h).resolve_left hne

theorem mem_of_mem_splitOn (h : piece ∈ t.splitOn c) (hd : d ∈ piece) : d ∈ t := by
  have hinfix := infix_intercalate (c := c) h
  rw [List.intercalate_splitOn] at hinfix
  exact hinfix.mem hd

theorem not_mem_of_mem_splitOn (h : piece ∈ t.splitOn c) : c ∉ piece := by
  induction t generalizing piece with
  | nil =>
    rw [List.splitOn_nil, List.mem_singleton] at h
    rw [h]
    exact List.not_mem_nil
  | cons e t ih =>
    obtain ⟨first, more, hs⟩ := List.exists_cons_of_ne_nil (List.splitOn_ne_nil c t)
    rw [List.splitOn_cons_eq_if_modifyHead, hs, List.modifyHead_cons] at h
    rw [hs] at ih
    split at h
    · rcases List.mem_cons.1 h with rfl | h
      · exact List.not_mem_nil
      · exact ih h
    · rename_i he
      rcases List.mem_cons.1 h with rfl | h
      · rw [List.mem_cons, not_or]
        exact ⟨fun e => he (beq_iff_eq.2 e.symm), ih List.mem_cons_self⟩
      · exact ih (List.mem_cons_of_mem first h)

end Pieces

namespace Text

theorem ofLines_cons (l : Text) (more : List Text) :
    ofLines (l :: more) = l ++ '\n' :: ofLines more := by
  simp [ofLines]

theorem ofLines_eq_intercalate {lines : List Text} (h : lines ≠ []) :
    ofLines lines = List.intercalate ['\n'] lines ++ ['\n'] := by
  induction lines with
  | nil => exact absurd rfl h
  | cons first more ih =>
    cases more with
    | nil => simp [ofLines]
    | cons second more =>
      rw [ofLines_cons, ih (List.cons_ne_nil second more), List.intercalate_cons_cons]
      simp

theorem ofLines_splitOn (t : Text) : ofLines (t.splitOn '\n') = t ++ ['\n'] := by
  rw [ofLines_eq_intercalate (List.splitOn_ne_nil _ _), List.intercalate_splitOn]

theorem infix_ofLines {l : Text} {lines : List Text} (h : l ∈ lines) :
    l ++ ['\n'] <:+: ofLines lines := by
  induction lines with
  | nil => exact absurd h List.not_mem_nil
  | cons first more ih =>
    rw [ofLines_cons]
    rcases List.mem_cons.1 h with rfl | h
    · exact ⟨[], ofLines more, by simp⟩
    · exact (ih h).trans ⟨first ++ ['\n'], [], by simp⟩

/-! ### The first occurrence of a mark -/

theorem cut?_cons (mark : Text) (c : Char) (t : Text) :
    cut? mark (c :: t) =
      if mark <+: c :: t then some ([], (c :: t).drop mark.length)
      else (cut? mark t).map fun (before, after) => (c :: before, after) := rfl

theorem cut?_eq_none_iff {mark t : Text} : cut? mark t = none ↔ ¬ mark <:+: t := by
  induction t with
  | nil => by_cases h : mark = [] <;> simp [cut?, h]
  | cons c t ih =>
    rw [cut?_cons, List.infix_cons_iff]
    by_cases h : mark <+: c :: t
    · simp [h]
    · rw [if_neg h, Option.map_eq_none_iff, ih, not_or]
      exact ⟨fun ht => ⟨h, ht⟩, And.right⟩

/-- A mark that begins a text begins what is cut off before a later one. -/
theorem mark_prefix_of_cut {mark before after : Text} (hbefore : before ≠ [])
    (h : mark <+: before ++ (mark ++ after)) : mark <+: before ++ mark.dropLast := by
  have hfront : before ++ mark.dropLast <+: before ++ (mark ++ after) :=
    List.prefix_append_right_inj before |>.2
      ((List.dropLast_prefix mark).trans (List.prefix_append mark after))
  refine List.prefix_of_prefix_length_le h hfront ?_
  have hpos := List.length_pos_iff.2 hbefore
  rw [List.length_append, List.length_dropLast]
  omega

/-- A text is cut at its first mark: no mark ends before that one does. -/
theorem cut?_eq_some_iff {mark t before after : Text} (hne : mark ≠ []) :
    cut? mark t = some (before, after) ↔
      t = before ++ (mark ++ after) ∧ ¬ mark <:+: before ++ mark.dropLast := by
  induction t generalizing before with
  | nil => simp [cut?, hne]
  | cons c t ih =>
    rw [cut?_cons]
    by_cases h : mark <+: c :: t
    · rw [if_pos h, Option.some.injEq, Prod.mk.injEq]
      constructor
      · rintro ⟨rfl, rfl⟩
        refine ⟨(List.prefix_iff_eq_append.1 h).symm, fun hm => ?_⟩
        have hle := hm.length_le
        have hpos := List.length_pos_iff.2 hne
        rw [List.nil_append, List.length_dropLast] at hle
        omega
      · rintro ⟨ht, hfirst⟩
        cases before with
        | nil => exact ⟨rfl, by rw [ht, List.nil_append, List.drop_left]⟩
        | cons d front =>
          exact absurd (mark_prefix_of_cut (List.cons_ne_nil d front) (ht ▸ h)).isInfix hfirst
    · rw [if_neg h, Option.map_eq_some_iff]
      constructor
      · rintro ⟨⟨front, rest⟩, hcut, hpair⟩
        obtain ⟨rfl, rfl⟩ := Prod.mk.inj hpair
        obtain ⟨rfl, hfirst⟩ := ih.1 hcut
        refine ⟨rfl, fun hm => ?_⟩
        rcases List.infix_cons_iff.1 hm with hm | hm
        · refine h (hm.trans ?_)
          exact List.prefix_append_right_inj (c :: front) |>.2
            ((List.dropLast_prefix mark).trans (List.prefix_append mark rest))
        · exact hfirst hm
      · rintro ⟨ht, hfirst⟩
        cases before with
        | nil => exact absurd (ht ▸ List.prefix_append mark after) h
        | cons d front =>
          obtain ⟨rfl, rfl⟩ := List.cons.inj ht
          exact ⟨(front, after), ih.2 ⟨rfl, fun hm => hfirst (List.infix_cons hm)⟩, rfl⟩

end Text
end CountedConfig
