/-
What is found in an environment.

The first assignment to a name decides (`get?_eq_some_iff`), and a name that no assignment begins
with is not set (`get?_eq_none_iff`).  The home directory is the one that `HOME` names, or that of
the account where it names none (`homePath?_eq_some_iff`).
-/
import CountedConfig.Environment
import Mathlib.Data.List.Basic

namespace CountedConfig
namespace Environment

variable {env : Environment} {name : Text} {value home : Bytes}

theorem isPrefixOf?_opening_eq_none_iff {assignment : Bytes} :
    (opening name).isPrefixOf? assignment = none ↔ ¬ opening name <+: assignment := by
  rw [Option.eq_none_iff_forall_ne_some]
  simp only [ne_eq, List.isPrefixOf?_eq_some_iff_append_eq]
  exact not_exists.symm

theorem get?_eq_some_iff :
    env.get? name = some value ↔ name ≠ [] ∧ '\x00' ∉ name ∧ ∃ front behind,
      env.assignments = front ++ (opening name ++ value) :: behind ∧
        ∀ a ∈ front, ¬ opening name <+: a := by
  rw [get?]
  by_cases hname : name = [] ∨ '\x00' ∈ name
  · rw [if_pos hname]
    refine iff_of_false (by simp) fun ⟨hne, hnul, _⟩ => ?_
    exact hname.elim hne hnul
  · rw [if_neg hname, List.findSome?_eq_some_iff]
    rw [not_or] at hname
    simp only [List.isPrefixOf?_eq_some_iff_append_eq, isPrefixOf?_opening_eq_none_iff]
    constructor
    · rintro ⟨front, _, behind, hsplit, rfl, hfirst⟩
      exact ⟨hname.1, hname.2, front, behind, hsplit, hfirst⟩
    · rintro ⟨-, -, front, behind, hsplit, hfirst⟩
      exact ⟨front, _, behind, hsplit, rfl, hfirst⟩

/-- The assignment to `A` is one to `A=B` as well. -/
example : (⟨[Text.encode "A=B=C".toList], none⟩ : Environment).get? "A=B".toList =
    some (Text.encode ['C']) := by decide +kernel

theorem get?_eq_none_iff :
    env.get? name = none ↔
      name = [] ∨ '\x00' ∈ name ∨ ∀ a ∈ env.assignments, ¬ opening name <+: a := by
  rw [get?, ← or_assoc]
  by_cases hname : name = [] ∨ '\x00' ∈ name
  · rw [if_pos hname]
    exact iff_of_true rfl (.inl hname)
  · rw [if_neg hname, List.findSome?_eq_none_iff]
    simp only [isPrefixOf?_opening_eq_none_iff, hname, false_or]

theorem homePath?_eq_some_iff :
    env.homePath? = some home ↔ home ≠ [] ∧
      (env.get? "HOME".toList = some home ∨
        (∀ named, env.get? "HOME".toList = some named → named = []) ∧
          env.accountHome = some home) := by
  rw [homePath?, Option.or_eq_some_iff, Option.filter_eq_some_iff, Option.filter_eq_none_iff,
    Option.filter_eq_some_iff]
  simp only [ne_eq, decide_not, decide_eq_false_iff_not, Bool.not_eq_eq_eq_not, Bool.not_true,
    Classical.not_not]
  tauto

end Environment
end CountedConfig
