/-
A value is shorter than its line.

The key takes at least one character and so does the operator.  When the tail of a
fragment is read as a line of its own, that line is therefore shorter than the one
it came from, which is why reading ends.
-/
import CountedConfig.Line.Key

namespace CountedConfig

theorem Text.length_dropTrailing_le (p : Char → Bool) (t : Text) :
    (Text.dropTrailing p t).length ≤ t.length := by
  have := (List.dropWhile_sublist p (l := t.reverse)).length_le
  simpa [Text.dropTrailing] using this

theorem Text.length_dropBlanks_le (t : Text) : (Text.dropBlanks t).length ≤ t.length :=
  (List.dropWhile_sublist _).length_le

theorem length_value?_le {tail value : Text} (h : value? tail = some value) :
    value.length ≤ tail.length := by
  unfold value? at h
  split at h
  · simp at h
  · split at h
    · rw [← Option.some.inj h]
      exact Text.length_dropTrailing_le _ _
    · rw [← Option.some.inj h, List.length_append]
      have h₁ : ((Text.dropBlanks tail).takeWhile (· != '\n')).length
          ≤ (Text.dropBlanks tail).length := (List.takeWhile_sublist _).length_le
      have h₂ : (tail.takeWhile Text.isBlank).length + (Text.dropBlanks tail).length
          = tail.length := by
        rw [Text.dropBlanks, ← List.length_append, List.takeWhile_append_dropWhile]
      omega

theorem readCount?_suffix {t rest : Text} {count : Nat} (h : readCount? t = some (count, rest)) :
    rest <:+ t := by
  unfold readCount? at h
  split at h
  · simp at h
  · split at h
    · simp only [Option.some.injEq, Prod.mk.injEq] at h
      rw [← h.2]
      exact List.dropWhile_suffix _
    · simp at h

namespace Form

/-- An operator takes at least the first character. -/
theorem operator?_suffix {form : Form} {t tail : Text} {op : Operator}
    (h : form.operator? t = some (op, tail)) : ∃ c rest, t = c :: rest ∧ tail <:+ rest := by
  unfold operator? at h
  split at h
  · split at h
    · rename_i hc
      split at h
      · simp only [Option.some.injEq, Prod.mk.injEq] at h
        obtain ⟨-, rfl⟩ := h
        refine ⟨_, _, rfl, List.IsSuffix.trans ?_ (readCount?_suffix hc)⟩
        exact (List.suffix_cons _ _).trans (List.suffix_cons _ _)
      · simp at h
    · simp at h
  · simp only [Option.some.injEq, Prod.mk.injEq] at h
    obtain ⟨-, rfl⟩ := h
    exact ⟨_, _, rfl, List.suffix_cons _ _⟩
  · simp only [Option.some.injEq, Prod.mk.injEq] at h
    obtain ⟨-, rfl⟩ := h
    exact ⟨_, _, rfl, List.suffix_refl _⟩
  · simp at h

theorem length_operator?_lt {form : Form} {t tail : Text} {op : Operator}
    (h : form.operator? t = some (op, tail)) : tail.length < t.length := by
  obtain ⟨c, rest, rfl, hs⟩ := operator?_suffix h
  exact Nat.lt_succ_of_le hs.length_le

theorem length_operand?_lt {form : Form} {t value : Text} {op : Operator}
    (h : form.operand? t = some (op, value)) : value.length < t.length := by
  unfold operand? at h
  split at h
  · rename_i ho
    obtain ⟨v, hv, he⟩ := Option.map_eq_some_iff.1 h
    simp only [Prod.mk.injEq] at he
    rw [← he.2]
    exact Nat.lt_of_le_of_lt (length_value?_le hv) (length_operator?_lt ho)
  · simp at h

end Form

theorem Keyed.exists_shorter {α : Type} {p : Text → Option α} {t key : Text} {a : α}
    (h : Keyed p t key a) : ∃ rest, p rest = some a ∧ rest.length < t.length := by
  obtain ⟨hne, -, rest, rfl, ha⟩ := h
  have hk : 0 < key.length := List.length_pos_iff.2 hne
  have hd := Text.length_dropBlanks_le rest
  refine ⟨_, ha, ?_⟩
  rw [List.length_append]
  omega

namespace LineKind

/-- A counted line has a counted operator behind its key, and the fragment is the value
behind that. -/
theorem keyed_of_ofLine {line key fragment : Text} {unit : CountUnit} {count : Nat}
    (h : ofLine line = .counted unit key count fragment) :
    ∃ form : Form, Keyed form.operand? (Text.dropBlanks line) key (.counted unit count, fragment) := by
  unfold ofLine at h
  simp only at h
  split at h
  · simp at h
  · split at h
    · rename_i kind hk
      obtain ⟨form, -, hf⟩ := List.exists_of_findSome?_eq_some hk
      obtain ⟨⟨k, op, v⟩, hs, ho⟩ := Option.map_eq_some_iff.1 hf
      rw [h] at ho
      cases op with
      | counted u n =>
        simp only [Operator.kind, counted.injEq] at ho
        obtain ⟨rfl, rfl, rfl, rfl⟩ := ho
        exact ⟨form, (shortestKey?_eq_some_iff.1 hs).1⟩
      | raw => simp [Operator.kind] at ho
      | simple => simp [Operator.kind] at ho
    · split at h <;> simp at h

/-- A fragment is shorter than its line by the key and the operator. -/
theorem length_fragment {line key fragment : Text} {unit : CountUnit} {count : Nat}
    (h : ofLine line = .counted unit key count fragment) : fragment.length + 2 ≤ line.length := by
  obtain ⟨form, hk⟩ := keyed_of_ofLine h
  obtain ⟨rest, hr, hl⟩ := hk.exists_shorter
  have h₁ := Form.length_operand?_lt hr
  have h₂ := Text.length_dropBlanks_le line
  omega

end LineKind
end CountedConfig
