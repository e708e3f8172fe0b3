/-
The value of a single line.

Behind the operator of a line without a newline stands the value and nothing else, so
the fragment of a counted form is the end of the line (`LineKind.fragment_suffix`).
-/
import CountedConfig.Line.Length
import CountedConfig.Proofs.Text.Trailing

namespace CountedConfig

/-- What follows an operator on one line is the value, if it is anything. -/
theorem value?_line {tail : Text} (hn : '\n' ∉ tail) (hne : tail ≠ []) : value? tail = some tail := by
  have hc : ∀ c ∈ tail, c ≠ '\n' := fun c hm e => hn (e ▸ hm)
  have hall : ¬ tail.all (· == '\n') = true := by
    obtain ⟨c, rest, rfl⟩ := List.exists_cons_of_ne_nil hne
    have := hc c List.mem_cons_self
    simp [this]
  rw [value?, if_neg hall]
  split
  · rw [Text.dropTrailing_eq_rdropWhile, List.rdropWhile_eq_self_iff.2 fun hl => by
      simpa using hc _ (List.getLast_mem hl)]
  · have hvisible : ∀ c ∈ Text.dropBlanks tail, (c != '\n') = true := fun c hm => by
      simpa using hc c (List.dropWhile_subset _ hm)
    have hd : (Text.dropBlanks tail).takeWhile (· != '\n') = Text.dropBlanks tail := by
      simpa using @List.takeWhile_append_of_pos Char (· != '\n') (Text.dropBlanks tail) [] hvisible
    rw [hd, Text.dropBlanks, List.takeWhile_append_dropWhile]

theorem eq_of_value?_line {tail value : Text} (hn : '\n' ∉ tail) (h : value? tail = some value) :
    value = tail := by
  by_cases hne : tail = []
  · subst hne
    simp [value?] at h
  · rw [value?_line hn hne] at h
    exact (Option.some.inj h).symm

theorem Form.operand?_suffix {form : Form} {t value : Text} {op : Operator} (hn : '\n' ∉ t)
    (h : form.operand? t = some (op, value)) : value <:+ t := by
  unfold operand? at h
  split at h
  · rename_i found tail ho
    obtain ⟨v, hv, he⟩ := Option.map_eq_some_iff.1 h
    simp only [Prod.mk.injEq] at he
    obtain ⟨-, rfl⟩ := he
    obtain ⟨c, rest, rfl, hs⟩ := operator?_suffix ho
    have ht : tail <:+ c :: rest := hs.trans (List.suffix_cons _ _)
    rw [eq_of_value?_line (fun hm => hn (ht.mem hm)) hv]
    exact ht
  · simp at h

/-- A fragment ends where its line ends. -/
theorem LineKind.fragment_suffix {line key fragment : Text} {unit : CountUnit} {count : Nat}
    (hn : '\n' ∉ line) (h : ofLine line = .counted unit key count fragment) :
    fragment <:+ line := by
  obtain ⟨form, -, -, rest, hb, hr⟩ := keyed_of_ofLine h
  have hrest : Text.dropBlanks rest <:+ line := by
    have h₁ : rest <:+ Text.dropBlanks line := ⟨key, hb.symm⟩
    have h₂ : Text.dropBlanks line <:+ line := List.dropWhile_suffix _
    exact ((List.dropWhile_suffix _).trans h₁).trans h₂
  exact (Form.operand?_suffix (fun hm => hn (hrest.mem hm)) hr).trans hrest

end CountedConfig
