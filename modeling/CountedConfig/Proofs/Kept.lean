/-
What every read keeps.

A read brings in physical lines one after the other.  It leaves the rest of one pending, and a
turn lays a line before the input, and that is all that changes.  A property of the lines that
are unread and of their numbers is therefore kept by every read, and holds wherever a reading
comes to, when it is kept by bringing in one line (`Kept.reaches`).
-/
import CountedConfig.Proofs.Progress

namespace CountedConfig
namespace Input

/-- A property that speaks of the lines that are unread and of their numbers alone, and is kept
when the next of them is brought in. -/
structure Kept (P : Input → Prop) : Prop where
  readLine : ∀ {i : Input}, P i → P i.readLine.2
  place : ∀ {i : Input} (pending : Text) (injected : Option Text), P i →
    P { i with pending := pending, injected := injected }

namespace Kept

variable {P : Input → Prop} {i : Input}

theorem takeLines (hP : Kept P) (requested missing : Nat) (hi : P i) :
    P (Input.takeLines requested missing i).2 := by
  induction missing generalizing i with
  | zero => exact hi
  | succ missing ih =>
    have hr := hP.readLine hi
    unfold Input.takeLines
    split
    · rename_i line rest h
      rw [h] at hr
      rw [snd_prepend]
      exact ih hr
    · rename_i h; rw [h] at hr; exact hr
    · rename_i h; rw [h] at hr; exact hr

theorem takeChars (hP : Kept P) (requested missing : Nat) (hi : P i) :
    P (Input.takeChars requested missing i).2 := by
  fun_induction Input.takeChars requested missing i with
  | case1 => exact hi
  | case2 missing i _ line rest h =>
    -- The rest of the line is left pending.
    have hr := hP.readLine hi
    rw [h] at hr
    exact hP.place _ rest.injected hr
  | case3 missing i _ line rest h _ ih =>
    have hr := hP.readLine hi
    rw [h] at hr
    rw [snd_prepend]
    exact ih hr
  | case4 missing i _ rest h => have hr := hP.readLine hi; rw [h] at hr; exact hr
  | case5 missing i _ e rest h => have hr := hP.readLine hi; rw [h] at hr; exact hr

theorem nextLine (hP : Kept P) (hi : P i) : P i.nextLine.2 := by
  unfold Input.nextLine
  split
  · exact hP.place i.pending none hi
  · exact hP.readLine hi

theorem complete (hP : Kept P) (unit : CountUnit) (key : Text) (count : Nat) (fragment : Text)
    (hi : P i) : P (Input.complete unit key count fragment i).2 := by
  cases unit with
  | lines =>
    simp only [Input.complete, completeLines]
    split
    · rw [snd_continued]; exact hP.takeLines _ _ hi
    · exact hi
  | characters =>
    simp only [Input.complete, completeCharacters]
    split
    · rw [snd_continued]; exact hP.takeChars _ _ hi
    · split <;> exact hi

theorem turn (hP : Kept P) {line : Text} {injected : Bool} {t : Turn} {next : Input} (hi : P i)
    (h : Input.turn line injected i = .turned t next) : P next := by
  unfold Input.turn at h
  split at h
  · rename_i unit key count fragment _
    have hc := hP.complete unit key count fragment hi
    split at h
    · rename_i c rest hr
      rw [hr] at hc
      simp only [Step.turned.injEq] at h
      rw [← h.2]
      cases c.leftover with
      | none => exact hc
      | some tail => exact hP.place rest.pending (some tail) hc
    · simp at h
  all_goals
    simp only [Step.turned.injEq] at h
    exact h.2 ▸ hi

theorem step (hP : Kept P) {t : Turn} {next : Input} (hi : P i) (h : i.step = .turned t next) :
    P next := by
  have hn := hP.nextLine hi
  unfold Input.step at h
  split at h
  · rename_i line rest hl
    rw [hl] at hn
    exact hP.turn hn h
  · simp at h
  · simp at h

/-- What every read keeps holds wherever a reading comes to. -/
theorem reaches (hP : Kept P) {n : Nat} {j : Input} (hi : P i) (h : i.Reaches n j) : P j :=
  h.invariant hi fun _ _ _ hj hs => hP.step hj hs

end Kept

/-! ### What is unread -/

/-- No line that is unread has a larger number. -/
def lastNumber (i : Input) : Nat := i.lineNumber + i.unread.length

theorem kept_lastNumber_lt (n : Nat) : Kept fun i => i.lastNumber < n where
  readLine {i} hi := by
    obtain ⟨origin, unread, pending, injected, number⟩ := i
    simp only [lastNumber] at hi ⊢
    by_cases hp : pending = []
    · cases unread with
      | nil => simpa [readLine, hp] using hi
      | cons line more =>
        rw [List.length_cons] at hi
        cases line <;> simp only [readLine, hp, if_true] <;> omega
    · simpa [readLine, hp] using hi
  place _ _ hi := hi

theorem kept_readable : Kept fun i => .undecodable ∉ i.unread where
  readLine {i} hi := by
    unfold readLine
    split
    · split
      · exact hi
      · rename_i hu
        exact absurd (hu ▸ List.mem_cons_self) hi
      · rename_i hu
        rw [hu] at hi
        exact List.not_mem_of_not_mem_cons hi
    · exact hi
  place _ _ hi := hi

end Input
end CountedConfig
