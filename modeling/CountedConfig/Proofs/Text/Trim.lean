/-
What trimming leaves of a text.

A trimmed text neither begins nor ends with a blank, and only blanks were around it
(`trim_eq_iff`).
-/
import CountedConfig.Proofs.Line.Fragment
import CountedConfig.Proofs.Line.Newline

namespace CountedConfig
namespace Text

def Blank (t : Text) : Prop := ∀ c ∈ t, isBlank c = true

def Visible (t : Text) : Prop := ∀ c ∈ t, isBlank c = false

instance (t : Text) : Decidable (Blank t) :=
  decidable_of_iff (t.all isBlank = true) List.all_eq_true

instance (t : Text) : Decidable (Visible t) :=
  decidable_of_iff (t.all (fun c => !isBlank c) = true) (by simp [Visible])

theorem ne_of_isBlank {c d : Char} (hc : isBlank c = true) (hd : isBlank d = false) : c ≠ d := by
  rintro rfl
  simp [hd] at hc

/-- `v` is `t` without the blanks at either end. -/
structure Trims (t v : Text) : Prop where
  split : ∃ front back, t = front ++ (v ++ back) ∧ Blank front ∧ Blank back
  first : ∀ c, v.head? = some c → isBlank c = false
  last : ∀ c, v.getLast? = some c → isBlank c = false

/-! ### At the front -/

section Run

variable {p : Char → Bool} {s rest : Text}

/-- A run of a class ends where a character of another class stands. -/
theorem takeWhile_run (hs : ∀ c ∈ s, p c = true) (hrest : ∀ c, rest.head? = some c → p c = false) :
    (s ++ rest).takeWhile p = s := by
  rw [List.takeWhile_append_of_pos hs]
  cases rest with
  | nil => simp
  | cons c rest => rw [List.takeWhile_cons_of_neg (by simp [hrest c rfl]), List.append_nil]

theorem dropWhile_run (hs : ∀ c ∈ s, p c = true) (hrest : ∀ c, rest.head? = some c → p c = false) :
    (s ++ rest).dropWhile p = rest := by
  rw [List.dropWhile_append_of_pos hs]
  cases rest with
  | nil => rfl
  | cons c rest => exact List.dropWhile_cons_of_neg (by simp [hrest c rfl])

theorem not_head?_dropWhile {c : Char} (h : (s.dropWhile p).head? = some c) : p c = false := by
  have hnot := List.head?_dropWhile_not p s
  rw [h] at hnot
  exact hnot

end Run

theorem dropBlanks_append {w t : Text} (hw : Blank w)
    (ht : ∀ c, t.head? = some c → isBlank c = false) : dropBlanks (w ++ t) = t :=
  dropWhile_run hw ht

theorem blank_takeWhile (t : Text) : Blank (t.takeWhile isBlank) :=
  List.all_eq_true.1 List.all_takeWhile

theorem takeWhile_append_dropBlanks (t : Text) : t.takeWhile isBlank ++ dropBlanks t = t :=
  List.takeWhile_append_dropWhile

theorem isBlank_head?_dropBlanks {t : Text} {c : Char} (h : (dropBlanks t).head? = some c) :
    isBlank c = false :=
  not_head?_dropWhile h

theorem dropBlanks_eq_nil {t : Text} : dropBlanks t = [] ↔ Blank t := by
  rw [dropBlanks_eq_nil_iff, List.all_eq_true]
  rfl

/-! ### At both ends -/

theorem trims_trim (t : Text) : Trims t (trim t) := by
  obtain ⟨⟨back, hback, hb⟩, hlast⟩ := strips_dropTrailing isBlank (dropBlanks t)
  refine ⟨⟨t.takeWhile isBlank, back, ?_, blank_takeWhile t, hb⟩, fun c hc => ?_, hlast⟩
  · rw [trim, trimEnd, ← hback, takeWhile_append_dropBlanks]
  · -- The first character that is left is the first that was not dropped.
    refine isBlank_head?_dropBlanks (t := t) ?_
    rw [hback, List.head?_append]
    rw [trim, trimEnd] at hc
    rw [hc, Option.some_or]

theorem trim_eq_iff {t v : Text} : trim t = v ↔ Trims t v := by
  constructor
  · rintro rfl
    exact trims_trim t
  · rintro ⟨⟨front, back, rfl, hf, hb⟩, hfirst, hlast⟩
    cases v with
    | nil =>
      have hall : Blank (front ++ ([] ++ back)) := fun c hc => by
        rcases List.mem_append.1 hc with hc | hc
        · exact hf c hc
        · exact hb c hc
      rw [trim, dropBlanks_eq_nil.2 hall]
      rfl
    | cons c v =>
      rw [trim, dropBlanks_append hf (by simpa using hfirst c rfl), trimEnd]
      exact dropTrailing_eq_iff.2 ⟨⟨back, rfl, hb⟩, hlast⟩

theorem trim_eq_nil_iff {t : Text} : trim t = [] ↔ Blank t := by
  rw [trim_eq_iff]
  constructor
  · rintro ⟨⟨front, back, rfl, hf, hb⟩, -, -⟩ c hc
    rcases List.mem_append.1 hc with hc | hc
    · exact hf c hc
    · exact hb c hc
  · exact fun h => ⟨⟨t, [], by simp, h, by simp [Blank]⟩, by simp, by simp⟩

end Text
end CountedConfig
