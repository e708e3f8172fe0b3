/-
Completing the value of a counted form.

The line itself gives the first fragment of the value and ends in a newline, which
is part of the value when more is read.  Counting lines, the fragment is the first.
Counting characters, the newline after the fragment is charged too; and when the
fragment is longer than the count, the value ends inside the line and the tail of
the fragment is handed back as `leftover`.  A value that runs to the end of a line
loses the line breaks at its end.
-/
import CountedConfig.Input
import CountedConfig.Text.Blank

namespace CountedConfig

structure Completion where
  /-- What was read from the input for it. -/
  taken : Text
  value : Text
  /-- The rest of the line when the value ended inside it. -/
  leftover : Option Text
  deriving DecidableEq, Repr

namespace Input

/-- The outcome of reading the rest of a value that goes on behind its fragment. -/
def continued (key fragment : Text) (i : Input) :
    Except ReadFailure Text × Input → Except ParseError Completion × Input
  | (.ok more, rest) => (.ok ⟨more, Text.dropLineBreaks (fragment ++ '\n' :: more), none⟩, rest)
  | (.error e, rest) => (.error (.ofReadFailure key i.origin e), rest)

@[simp] theorem snd_continued (key fragment : Text) (i : Input) (r : Except ReadFailure Text × Input) :
    (continued key fragment i r).2 = r.2 := by
  rcases r with ⟨_ | _, _⟩ <;> rfl

def completeLines (key : Text) (count : Nat) (fragment : Text) (i : Input) :
    Except ParseError Completion × Input :=
  if 1 < count then continued key fragment i (i.nextLines (count - 1))
  else (.ok ⟨[], Text.dropLineBreaks fragment, none⟩, i)

def completeCharacters (key : Text) (count : Nat) (fragment : Text) (i : Input) :
    Except ParseError Completion × Input :=
  if fragment.length < count then
    continued key fragment i (i.nextChars (count - fragment.length - 1))
  else if fragment.length = count then (.ok ⟨[], Text.dropLineBreaks fragment, none⟩, i)
  else (.ok ⟨[], fragment.take count, some (fragment.drop count)⟩, i)

def complete : CountUnit → Text → Nat → Text → Input → Except ParseError Completion × Input
  | .lines => completeLines
  | .characters => completeCharacters

/-! ### The regimes of a count -/

section Regimes

variable {count : Nat} {fragment : Text}

theorem completeLines_of_gt (h : 1 < count) (key fragment : Text) (i : Input) :
    i.completeLines key count fragment = continued key fragment i (i.nextLines (count - 1)) :=
  if_pos h

theorem completeLines_of_le (h : count ≤ 1) (key fragment : Text) (i : Input) :
    i.completeLines key count fragment = (.ok ⟨[], Text.dropLineBreaks fragment, none⟩, i) :=
  if_neg (Nat.not_lt_of_le h)

theorem completeCharacters_of_gt (h : fragment.length < count) (key : Text) (i : Input) :
    i.completeCharacters key count fragment =
      continued key fragment i (i.nextChars (count - fragment.length - 1)) :=
  if_pos h

theorem completeCharacters_self (key fragment : Text) (i : Input) :
    i.completeCharacters key fragment.length fragment =
      (.ok ⟨[], Text.dropLineBreaks fragment, none⟩, i) := by
  rw [completeCharacters, if_neg (Nat.lt_irrefl _), if_pos rfl]

theorem completeCharacters_of_lt (h : count < fragment.length) (key : Text) (i : Input) :
    i.completeCharacters key count fragment =
      (.ok ⟨[], fragment.take count, some (fragment.drop count)⟩, i) := by
  rw [completeCharacters, if_neg (by omega), if_neg (by omega)]

end Regimes

theorem remaining_complete_le (unit : CountUnit) (key : Text) (count : Nat) (fragment : Text)
    (i : Input) : (complete unit key count fragment i).2.remaining ≤ i.remaining := by
  cases unit with
  | lines =>
    simp only [complete, completeLines]
    split
    · rw [snd_continued]; exact remaining_takeLines_le _ _ i
    · exact Nat.le_refl _
  | characters =>
    simp only [complete, completeCharacters]
    split
    · rw [snd_continued]; exact remaining_takeChars_le _ _ i
    · split <;> exact Nat.le_refl _

theorem injected_complete (unit : CountUnit) (key : Text) (count : Nat) (fragment : Text)
    (i : Input) : (complete unit key count fragment i).2.injected = i.injected := by
  cases unit with
  | lines =>
    simp only [complete, completeLines]
    split
    · rw [snd_continued]; exact injected_takeLines _ _ i
    · rfl
  | characters =>
    simp only [complete, completeCharacters]
    split
    · rw [snd_continued]; exact injected_takeChars _ _ i
    · split <;> rfl

theorem length_leftover_le {unit : CountUnit} {key : Text} {count : Nat} {fragment t : Text}
    {i rest : Input} {c : Completion} (h : complete unit key count fragment i = (.ok c, rest))
    (ht : c.leftover = some t) : t.length ≤ fragment.length := by
  have hc : ∀ r, continued key fragment i r = (.ok c, rest) → c.leftover = none := by
    rintro ⟨_ | _, _⟩ hr <;> simp only [continued, Prod.mk.injEq, Except.ok.injEq, reduceCtorEq,
      false_and] at hr
    rw [← hr.1]
  cases unit with
  | lines =>
    simp only [complete, completeLines] at h
    split at h
    · rw [hc _ h] at ht; simp at ht
    · simp only [Prod.mk.injEq, Except.ok.injEq] at h
      rw [← h.1] at ht; simp at ht
  | characters =>
    simp only [complete, completeCharacters] at h
    split at h
    · rw [hc _ h] at ht; simp at ht
    · split at h
      · simp only [Prod.mk.injEq, Except.ok.injEq] at h
        rw [← h.1] at ht; simp at ht
      · simp only [Prod.mk.injEq, Except.ok.injEq] at h
        rw [← h.1] at ht
        simp only [Option.some.injEq] at ht
        rw [← ht]
        simp

end Input
end CountedConfig
