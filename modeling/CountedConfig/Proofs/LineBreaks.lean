/-
The end of a value that counts.

A value that is taken to the end of a line loses the line breaks at its end.  One that ends
inside its line is stored as it was cut.  No newline stands there, but a return can, since a
return that is not half of a terminator is a character like any other.  A counted value
therefore ends in a line break exactly when its line is cut behind a return
(`endsInLineBreak_counted_iff`).
-/
import CountedConfig.Proofs.Progress
import CountedConfig.Proofs.Shape

namespace CountedConfig

/-- The last character is half of a terminator, or all of one. -/
def Text.EndsInLineBreak (t : Text) : Prop := ∃ c, t.getLast? = some c ∧ isLineBreak c = true

theorem Text.not_endsInLineBreak_dropLineBreaks (t : Text) : ¬ EndsInLineBreak (dropLineBreaks t) := by
  rintro ⟨c, hc, hbreak⟩
  have hlast := (strips_dropTrailing isLineBreak t).last c hc
  rw [hbreak] at hlast
  exact absurd hlast (by decide)

theorem Text.endsInLineBreak_iff_of_not_mem {t : Text} (h : '\n' ∉ t) :
    EndsInLineBreak t ↔ t.getLast? = some '\r' := by
  constructor
  · rintro ⟨c, hc, hbreak⟩
    have hn : c ≠ '\n' := fun e => h (e ▸ List.mem_of_getLast? hc)
    simp only [isLineBreak, Bool.or_eq_true, beq_iff_eq, hn, false_or] at hbreak
    rw [hc, hbreak]
  · exact fun hc => ⟨'\r', hc, by decide⟩

namespace Input

variable {i rest : Input} {unit : CountUnit} {key fragment : Text} {count : Nat}

/-- A value is taken to the end of a line, unless it ends inside its own. -/
theorem value_of_complete {c : Completion}
    (h : i.complete unit key count fragment = (.ok c, rest)) :
    (¬ (unit = .characters ∧ count < fragment.length) ∧ ∃ t, c.value = Text.dropLineBreaks t) ∨
      (unit = .characters ∧ count < fragment.length ∧ c.value = fragment.take count) := by
  have whole : ∀ r, continued key fragment i r = (.ok c, rest) → ∃ t, c.value = Text.dropLineBreaks t := by
    intro r hr
    obtain ⟨more, -, rfl⟩ := continued_eq_ok hr
    exact ⟨_, rfl⟩
  cases unit with
  | lines =>
    refine .inl ⟨by simp, ?_⟩
    rw [complete] at h
    by_cases hc : 1 < count
    · rw [completeLines_of_gt hc] at h
      exact whole _ h
    · rw [completeLines_of_le (Nat.le_of_not_lt hc)] at h
      cases h
      exact ⟨fragment, rfl⟩
  | characters =>
    rw [complete] at h
    rcases Nat.lt_trichotomy fragment.length count with hc | rfl | hc
    · rw [completeCharacters_of_gt hc] at h
      exact .inl ⟨by omega, whole _ h⟩
    · rw [completeCharacters_self] at h
      cases h
      exact .inl ⟨by omega, fragment, rfl⟩
    · rw [completeCharacters_of_lt hc] at h
      cases h
      exact .inr ⟨rfl, hc, rfl⟩

/-- What is stored for a line that counts is the value that was completed for it. -/
theorem entry_of_counted {t : Turn} {next : Input} (hs : i.step = .turned t next)
    (hk : LineKind.ofLine t.line = .counted unit key count fragment) :
    ∃ (j after : Input) (c : Completion),
      j.complete unit key count fragment = (.ok c, after) ∧ t.entry = some (key, c.value) := by
  unfold step at hs
  split at hs
  · rename_i line j _
    unfold turn at hs
    split at hs
    · rename_i hline
      split at hs
      · rename_i c after hc
        simp only [Step.turned.injEq] at hs
        obtain ⟨rfl, -⟩ := hs
        rw [hline] at hk
        cases hk
        exact ⟨j, after, c, hc, rfl⟩
      · simp at hs
    all_goals
      rename_i hline
      simp only [Step.turned.injEq] at hs
      obtain ⟨rfl, -⟩ := hs
      rw [hline] at hk
      cases hk
  · simp at hs
  · simp at hs

end Input

/-- Of the values that are stored for lines that count, those end in a line break that end
inside their line, behind a return. -/
theorem endsInLineBreak_counted_iff (origin : Text) (b : Bytes) {t : Turn}
    (ht : t ∈ (Input.ofBytes origin b).run.turns) {unit : CountUnit} {key fragment : Text}
    {count : Nat} (hk : LineKind.ofLine t.line = .counted unit key count fragment) :
    ∃ value, t.entry = some (key, value) ∧
      (value.EndsInLineBreak ↔ unit = .characters ∧ count < fragment.length ∧
        (fragment.take count).getLast? = some '\r') := by
  obtain ⟨n, j, next, -, hs⟩ := Input.exists_reaches_of_mem_turns ht
  obtain ⟨j, after, c, hc, hentry⟩ := Input.entry_of_counted hs hk
  refine ⟨c.value, hentry, ?_⟩
  rcases Input.value_of_complete hc with ⟨hcut, whole, hvalue⟩ | ⟨hunit, hlt, hvalue⟩
  · rw [hvalue, iff_false_left (Text.not_endsInLineBreak_dropLineBreaks whole)]
    exact fun ⟨hunit, hlt, _⟩ => hcut ⟨hunit, hlt⟩
  · have hline : t.line ∈ (Input.ofBytes origin b).run.lines :=
      List.mem_append_left _ (List.mem_map_of_mem ht)
    have hn := (Input.shape_run_ofBytes origin b).fragment _ hline _ _ _ _ hk
    rw [hvalue, Text.endsInLineBreak_iff_of_not_mem fun hm => hn (List.mem_of_mem_take hm)]
    simp only [hunit, hlt, true_and]

/-- Two characters are asked for, and the second is a return. -/
theorem endsInLineBreak_counted_iff_cut :
    ⟨"k:2c=a\rb\n".toList, false, 1, [], some (['k'], ['a', '\r']), some ['b']⟩ ∈
        (Input.ofBytes [] (Text.encode "k:2c=a\rb\n".toList)).run.turns ∧
      LineKind.ofLine "k:2c=a\rb\n".toList = .counted .characters ['k'] 2 ['a', '\r', 'b'] ∧
      Text.EndsInLineBreak ['a', '\r'] := by
  have ht : ⟨"k:2c=a\rb\n".toList, false, 1, [], some (['k'], ['a', '\r']), some ['b']⟩ ∈
      (Input.ofBytes [] (Text.encode "k:2c=a\rb\n".toList)).run.turns := by decide +kernel
  have hk : LineKind.ofLine "k:2c=a\rb\n".toList = .counted .characters ['k'] 2 ['a', '\r', 'b'] := by
    decide +kernel
  obtain ⟨value, hentry, hends⟩ := endsInLineBreak_counted_iff [] _ ht hk
  cases hentry
  exact ⟨ht, hk, hends.2 ⟨rfl, by decide, rfl⟩⟩

/-- Not every value that a line counts is stored without the line breaks at its end. -/
theorem parse_cut_behind_return :
    parse [] (Text.encode "k:2c=a\rb\n".toList) = .ok (Document.ofList [(['k'], ['a', '\r'])]) ∧
      ¬ ∀ t ∈ (Input.ofBytes [] (Text.encode "k:2c=a\rb\n".toList)).run.turns,
        ∀ unit key count fragment, LineKind.ofLine t.line = .counted unit key count fragment →
          ∀ value, t.entry = some (key, value) → ¬ Text.EndsInLineBreak value := by
  refine ⟨by decide +kernel, fun h => ?_⟩
  have ht : ⟨"k:2c=a\rb\n".toList, false, 1, [], some (['k'], ['a', '\r']), some ['b']⟩ ∈
      (Input.ofBytes [] (Text.encode "k:2c=a\rb\n".toList)).run.turns := by decide +kernel
  have hk : LineKind.ofLine "k:2c=a\rb\n".toList = .counted .characters ['k'] 2 ['a', '\r', 'b'] := by
    decide +kernel
  exact h _ ht _ _ _ _ hk _ rfl ⟨'\r', rfl, rfl⟩

end CountedConfig
