/-
A text without the characters of a class at its end.

It is the part of the text behind which only such characters stand, and which does not end in one
(`dropTrailing_eq_iff`).
-/
import CountedConfig.Text
import Mathlib.Data.List.DropRight

namespace CountedConfig
namespace Text

variable {p : Char → Bool} {t v : Text}

theorem dropTrailing_eq_rdropWhile (p : Char → Bool) (t : Text) :
    dropTrailing p t = t.rdropWhile p := rfl

/-- `v` is `t` without the characters at its end that are in the class `p`. -/
structure Strips (p : Char → Bool) (t v : Text) : Prop where
  split : ∃ s, t = v ++ s ∧ ∀ c ∈ s, p c = true
  last : ∀ c, v.getLast? = some c → p c = false

theorem dropTrailing_append {s : Text} (h : ∀ c ∈ s, p c = true) (t : Text) :
    dropTrailing p (t ++ s) = dropTrailing p t := by
  have hs : ∀ c ∈ s.reverse, p c = true := fun c hc => h c (List.mem_reverse.1 hc)
  rw [dropTrailing, List.reverse_append, List.dropWhile_append_of_pos hs, dropTrailing]

theorem strips_dropTrailing (p : Char → Bool) (t : Text) : Strips p t (dropTrailing p t) := by
  rw [dropTrailing_eq_rdropWhile]
  refine ⟨⟨t.rtakeWhile p, List.rdropWhile_append_rtakeWhile.symm,
    fun c hc => List.mem_rtakeWhile_imp hc⟩, fun c hc => ?_⟩
  have hne : t.rdropWhile p ≠ [] := by
    intro hnil
    rw [hnil] at hc
    cases hc
  rw [List.getLast?_eq_some_getLast hne, Option.some.injEq] at hc
  rw [← hc]
  exact Bool.eq_false_iff.2 (List.rdropWhile_last_not p t hne)

theorem dropTrailing_eq_iff : dropTrailing p t = v ↔ Strips p t v := by
  constructor
  · rintro rfl
    exact strips_dropTrailing p t
  · rintro ⟨⟨s, rfl, hs⟩, hlast⟩
    rw [dropTrailing_append hs, dropTrailing_eq_rdropWhile, List.rdropWhile_eq_self_iff]
    exact fun hne => Bool.eq_false_iff.1 (hlast _ (List.getLast?_eq_some_getLast hne))

/-- What stands before characters that are left is left. -/
theorem dropTrailing_cons (h : dropTrailing p t ≠ []) (c : Char) :
    dropTrailing p (c :: t) = c :: dropTrailing p t := by
  obtain ⟨⟨s, hs, hall⟩, hlast⟩ := strips_dropTrailing p t
  refine dropTrailing_eq_iff.2 ⟨⟨s, congrArg (c :: ·) hs, hall⟩, fun d hd => hlast d ?_⟩
  rwa [← List.singleton_append, List.getLast?_append, List.getLast?_eq_some_getLast h,
    Option.some_or, ← List.getLast?_eq_some_getLast h] at hd

end Text
end CountedConfig
