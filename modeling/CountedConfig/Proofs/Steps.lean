/-
What a step can be.

A value goes on behind its fragment, is complete with it, or ends inside it (`Completes`).  A step
takes a line and makes a turn of what the line means (`Turned`), or it is the end, for one of three
reasons (`Stopped`).  Each of these says all that the step has done, so that what holds of a step is
shown case by case, and the definition of the step is not looked at again.
-/
import CountedConfig.Proofs.Extension
import CountedConfig.Proofs.Saturation

namespace CountedConfig

/-- Whether a count asks for more than the fragment that stands behind the operator. -/
def CountUnit.goesOn (unit : CountUnit) (count : Nat) (fragment : Text) : Bool :=
  match unit with
  | .lines => 1 < count
  | .characters => fragment.length < count

namespace Input

/-! ### Values -/

theorem injected_next (unit : CountUnit) (n : Nat) (i : Input) :
    (i.next unit n).2.injected = i.injected := by
  cases unit with
  | lines => exact injected_takeLines n n i
  | characters => exact injected_takeChars n n i

/-- What a completed value can be. -/
inductive Completes (i : Input) (unit : CountUnit) (count : Nat) (fragment : Text) :
    Completion → Input → Prop
  | continued {more : Text} {rest : Input} (hgoes : unit.goesOn count fragment = true)
    (hnext : i.next unit (unit.beyond count fragment) = (.ok more, rest)) :
    Completes i unit count fragment
      ⟨more, Text.dropLineBreaks (fragment ++ '\n' :: more), none⟩ rest
  | whole (hstays : unit.goesOn count fragment = false)
    (hwhole : ¬ (unit = .characters ∧ count < fragment.length)) :
    Completes i unit count fragment ⟨[], Text.dropLineBreaks fragment, none⟩ i
  | cut (hunit : unit = .characters) (hlt : count < fragment.length) :
    Completes i unit count fragment ⟨[], fragment.take count, some (fragment.drop count)⟩ i

theorem complete_eq (unit : CountUnit) (key : Text) (count : Nat) (fragment : Text) (i : Input) :
    i.complete unit key count fragment =
      if unit.goesOn count fragment then
        continued key fragment i (i.next unit (unit.beyond count fragment))
      else if unit = .characters ∧ count < fragment.length then
        (.ok ⟨[], fragment.take count, some (fragment.drop count)⟩, i)
      else (.ok ⟨[], Text.dropLineBreaks fragment, none⟩, i) := by
  cases unit with
  | lines =>
    by_cases h : 1 < count
    · simp [complete, completeLines, CountUnit.goesOn, CountUnit.beyond, next, h]
    · simp [complete, completeLines, CountUnit.goesOn, h]
  | characters =>
    by_cases h : fragment.length < count
    · simp [complete, completeCharacters, CountUnit.goesOn, CountUnit.beyond, next, h]
    · by_cases he : fragment.length = count
      · simp [complete, completeCharacters, CountUnit.goesOn, he]
      · have hlt : count < fragment.length := by omega
        simp [complete, completeCharacters, CountUnit.goesOn, h, he, hlt]

theorem completes_of_complete {i rest : Input} {unit : CountUnit} {key fragment : Text} {count : Nat}
    {c : Completion} (h : i.complete unit key count fragment = (.ok c, rest)) :
    Completes i unit count fragment c rest := by
  rw [complete_eq] at h
  split at h
  · rename_i hgoes
    obtain ⟨more, hnext, rfl⟩ := continued_eq_ok h
    exact .continued hgoes hnext
  · rename_i hstays
    split at h
    · rename_i hcut
      cases h
      exact .cut hcut.1 hcut.2
    · rename_i hwhole
      cases h
      exact .whole (by simpa using hstays) hwhole

/-- A value that cannot be completed goes on behind its fragment, and what it asks for there
cannot be had. -/
theorem next_of_complete_error {i rest : Input} {unit : CountUnit} {key fragment : Text}
    {count : Nat} {e : ParseError} (h : i.complete unit key count fragment = (.error e, rest)) :
    unit.goesOn count fragment = true ∧ ∃ failure,
      i.next unit (unit.beyond count fragment) = (.error failure, rest) ∧
        e = .ofReadFailure key i.origin failure := by
  rw [complete_eq] at h
  split at h
  · rename_i hgoes
    refine ⟨hgoes, ?_⟩
    rcases hnext : i.next unit (unit.beyond count fragment) with ⟨failure | more, after⟩
    · rw [hnext] at h
      simp only [continued, Prod.mk.injEq, Except.error.injEq] at h
      obtain ⟨rfl, rfl⟩ := h
      exact ⟨failure, rfl, rfl⟩
    · rw [hnext] at h
      simp [continued] at h
  · split at h
    · simp at h
    · simp at h

/-! ### Turns -/

/-- What a turn can be of a line that was handed out, the position being behind it. -/
inductive Turned (line : Text) (injected : Bool) (i : Input) : Turn → Input → Prop
  | counted {unit : CountUnit} {key fragment : Text} {count : Nat} {c : Completion} {rest : Input}
    (hkind : LineKind.ofLine line = .counted unit key count fragment)
    (hc : Completes i unit count fragment c rest) :
    Turned line injected i
      ⟨line, injected, i.lineNumber, c.taken, some (key, c.value), c.leftover⟩
      (rest.handBack c.leftover)
  | plain {form : PlainForm} {key value : Text} (hkind : LineKind.ofLine line = .plain form key value) :
    Turned line injected i ⟨line, injected, i.lineNumber, [], some (key, value), none⟩ i
  | idle (hkind : LineKind.ofLine line = .comment ∨ LineKind.ofLine line = .blank ∨
      LineKind.ofLine line = .unrecognized) :
    Turned line injected i ⟨line, injected, i.lineNumber, [], none, none⟩ i

theorem turned_of_turn {line : Text} {injected : Bool} {i next : Input} {t : Turn}
    (h : turn line injected i = .turned t next) : Turned line injected i t next := by
  unfold turn at h
  split at h
  · rename_i unit key count fragment hkind
    split at h
    · rename_i c rest hc
      cases h
      exact .counted hkind (completes_of_complete hc)
    · simp at h
  · rename_i form key value hkind
    cases h
    exact .plain hkind
  · rename_i hkind
    cases h
    exact .idle (Or.inl hkind)
  · rename_i hkind
    cases h
    exact .idle (Or.inr (Or.inl hkind))
  · rename_i hkind
    cases h
    exact .idle (Or.inr (Or.inr hkind))

/-- A step that makes a turn has taken a line for it. -/
theorem turned_of_step {i next : Input} {t : Turn} (h : i.step = .turned t next) :
    ∃ line rest, i.nextLine = (.ok (some line), rest) ∧
      Turned line i.injected.isSome rest t next := by
  unfold step at h
  split at h
  · rename_i line rest hl
    exact ⟨line, rest, hl, turned_of_turn h⟩
  · simp at h
  · simp at h

/-! ### Ends -/

/-- What the end of a reading can be. -/
inductive Stopped (i : Input) : Ending → Input → Prop
  | complete (h : i.AtEnd) : Stopped i .complete i
  | unreadable {cause : ReadError} {rest : Input} (hl : i.nextLine = (.error cause, rest)) :
    Stopped i (.unreadable cause) rest
  | interrupted {line key fragment : Text} {unit : CountUnit} {count : Nat} {after rest : Input}
    {failure : ReadFailure} (hl : i.nextLine = (.ok (some line), after))
    (hkind : LineKind.ofLine line = .counted unit key count fragment)
    (hgoes : unit.goesOn count fragment = true)
    (hnext : after.next unit (unit.beyond count fragment) = (.error failure, rest)) :
    Stopped i (.interrupted line after.lineNumber (.ofReadFailure key after.origin failure)) rest

theorem stopped_of_step {i rest : Input} {ending : Ending} (h : i.step = .ended ending rest) :
    Stopped i ending rest := by
  cases ending with
  | complete =>
    obtain ⟨rfl, hend⟩ := atEnd_of_step h
    exact .complete hend
  | unreadable cause =>
    unfold step at h
    split at h
    · unfold turn at h
      split at h
      · split at h
        · simp at h
        · simp at h
      all_goals simp at h
    · simp at h
    · rename_i hl
      cases h
      exact .unreadable hl
  | interrupted line number e =>
    unfold step at h
    split at h
    · rename_i line after hl
      unfold turn at h
      split at h
      · rename_i unit key count fragment hkind
        split at h
        · simp at h
        · rename_i hc
          cases h
          obtain ⟨hgoes, failure, hnext, rfl⟩ := next_of_complete_error hc
          exact .interrupted hl hkind hgoes hnext
      all_goals simp at h
    · simp at h
    · simp at h

end Input
end CountedConfig
