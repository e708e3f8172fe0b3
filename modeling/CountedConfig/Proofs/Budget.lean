/-
The budget of a value that counts characters.

The fragment takes of the budget first, and the newline behind it is charged as one more
character.  What is left of the budget is taken from the input, not a character more and not
one less, wherever in a line the input stands and however many lines it goes through
(`Input.completeCharacters_budget`).
-/
import CountedConfig.Input.Completion
import CountedConfig.Proofs.Refinement
import CountedConfig.Proofs.Text.Trim

namespace CountedConfig

namespace PhysicalLine

/-- Behind the first characters stands the rest of them. -/
theorem flatten_readable_dropChars {n : Nat} {lines : List PhysicalLine}
    (h : n ≤ (readable lines).flatten.length) :
    (readable lines).flatten = (readable lines).flatten.take n ++ (readable (dropChars n lines)).flatten := by
  induction n generalizing lines with
  | zero => rw [dropChars_zero, List.take_zero, List.nil_append]
  | succ n ih =>
    match lines with
    | [] => exact absurd h (Nat.not_succ_le_zero n)
    | .undecodable :: more => exact absurd h (Nat.not_succ_le_zero n)
    | .text c rest :: more =>
      have hf : (readable (.text c rest :: more)).flatten =
          c :: (readable (withRest rest more)).flatten := by
        rw [flatten_readable_withRest]
        rfl
      rw [hf, List.length_cons] at h
      rw [hf, List.take_succ_cons, List.cons_append, dropChars, ← ih (Nat.le_of_succ_le_succ h)]

end PhysicalLine

namespace Input

open PhysicalLine

variable {i : Input}

/-- The characters of the input that are still to be read. -/
def ahead (i : Input) : Text := i.pending ++ (readable i.unread).flatten

theorem flatten_readable_remainder (i : Input) : (readable i.remainder.lines).flatten = i.ahead :=
  flatten_readable_withRest i.pending i.unread

theorem available_characters (i : Input) :
    available .characters i.remainder.lines = i.ahead.length :=
  congrArg List.length (flatten_readable_remainder i)

/-- What is taken of the input is the front of it. -/
theorem nextChars_of_le {n : Nat} (h : n ≤ i.ahead.length) :
    ∃ taken rest, i.nextChars n = (.ok taken, rest) ∧ taken.length = n ∧
      i.ahead = taken ++ rest.ahead ∧
      rest.remainder = ⟨dropChars n i.remainder.lines, i.injected⟩ := by
  rw [← available_characters] at h
  obtain ⟨rest, hnext, hrest⟩ := next_of_le h
  rw [available_characters] at h
  have hsplit := flatten_readable_dropChars (by rwa [flatten_readable_remainder] :
    n ≤ (readable i.remainder.lines).flatten.length)
  rw [flatten_readable_remainder] at hsplit
  refine ⟨i.ahead.take n, rest, ?_, List.length_take_of_le h, ?_, hrest⟩
  · rw [← flatten_readable_remainder]
    exact hnext
  · rw [← flatten_readable_remainder rest, hrest]
    exact hsplit

theorem nextChars_of_lt {n : Nat} (hi : .undecodable ∉ i.unread) (h : i.ahead.length < n) :
    ∃ rest, i.nextChars n = (.error (.exhausted .characters n i.ahead.length), rest) ∧
      rest.remainder = ⟨[], i.injected⟩ := by
  rw [← available_characters] at h ⊢
  exact next_of_lt hi h

/-- A value that counts characters has as many as its count says before the line breaks at its
end are taken away.  A smaller count cuts the fragment and an equal one takes it as it is,
both without a look at the input.  A larger one takes what is missing from the input, or tells
how much of it there was. -/
theorem completeCharacters_budget (hi : .undecodable ∉ i.unread) (key fragment : Text) (count : Nat) :
    (count < fragment.length → ∃ value leftover,
      i.completeCharacters key count fragment = (.ok ⟨[], value, some leftover⟩, i) ∧
        value ++ leftover = fragment ∧ value.length = count) ∧
    (count = fragment.length → ∃ value,
      i.completeCharacters key count fragment = (.ok ⟨[], value, none⟩, i) ∧
        Text.Strips Text.isLineBreak fragment value) ∧
    (fragment.length < count → count - fragment.length - 1 ≤ i.ahead.length → ∃ taken value rest,
      i.completeCharacters key count fragment = (.ok ⟨taken, value, none⟩, rest) ∧
        (fragment ++ '\n' :: taken).length = count ∧
        Text.Strips Text.isLineBreak (fragment ++ '\n' :: taken) value ∧
        i.ahead = taken ++ rest.ahead ∧
        rest.remainder = ⟨dropChars taken.length i.remainder.lines, i.injected⟩) ∧
    (fragment.length < count → i.ahead.length < count - fragment.length - 1 → ∃ rest,
      i.completeCharacters key count fragment =
          (.error (.truncated key .characters (count - fragment.length - 1) i.ahead.length), rest) ∧
        rest.remainder = ⟨[], i.injected⟩) := by
  refine ⟨fun h => ?_, fun h => ?_, fun h hle => ?_, fun h hlt => ?_⟩
  · exact ⟨_, _, completeCharacters_of_lt h key i, List.take_append_drop count fragment,
      List.length_take_of_le (Nat.le_of_lt h)⟩
  · subst h
    exact ⟨_, completeCharacters_self key fragment i, Text.strips_dropTrailing _ _⟩
  · obtain ⟨taken, rest, hnext, hlen, hahead, hrest⟩ := nextChars_of_le hle
    refine ⟨taken, _, rest, ?_, ?_, Text.strips_dropTrailing _ _, hahead, hlen ▸ hrest⟩
    · rw [completeCharacters_of_gt h, hnext]
      rfl
    · rw [List.length_append, List.length_cons]
      omega
  · obtain ⟨rest, hnext, hrest⟩ := nextChars_of_lt hi hlt
    refine ⟨rest, ?_, hrest⟩
    rw [completeCharacters_of_gt h, hnext]
    rfl

/-- Inside a line, with a line laid before the input, a fragment that ends in a return meets
counts of all four kinds. -/
theorem completeCharacters_budget_inside_line :
    ∃ i : Input, i.pending = ['b', '\n'] ∧ i.injected = some ['p'] ∧ i.ahead.length = 5 ∧
      (∃ value leftover, i.completeCharacters ['k'] 1 ['é', '\r'] = (.ok ⟨[], value, some leftover⟩, i) ∧
        value ++ leftover = ['é', '\r'] ∧ value.length = 1) ∧
      (∃ value, i.completeCharacters ['k'] 2 ['é', '\r'] = (.ok ⟨[], value, none⟩, i) ∧
        Text.Strips Text.isLineBreak ['é', '\r'] value) ∧
      (∃ taken value rest, i.completeCharacters ['k'] 6 ['é', '\r'] = (.ok ⟨taken, value, none⟩, rest) ∧
        (['é', '\r'] ++ '\n' :: taken).length = 6 ∧
        Text.Strips Text.isLineBreak (['é', '\r'] ++ '\n' :: taken) value ∧
        i.ahead = taken ++ rest.ahead ∧
        rest.remainder = ⟨dropChars taken.length i.remainder.lines, i.injected⟩) ∧
      ∃ rest, i.completeCharacters ['k'] 9 ['é', '\r'] =
          (.error (.truncated ['k'] .characters 6 5), rest) ∧
        rest.remainder = ⟨[], some ['p']⟩ := by
  refine ⟨⟨[], [.text 'c' ['d', '\n']], ['b', '\n'], some ['p'], 1⟩, rfl, rfl, rfl, ?_, ?_, ?_, ?_⟩
  · exact (completeCharacters_budget (by decide) ['k'] ['é', '\r'] 1).1 (by decide)
  · exact (completeCharacters_budget (by decide) ['k'] ['é', '\r'] 2).2.1 rfl
  · exact (completeCharacters_budget (by decide) ['k'] ['é', '\r'] 6).2.2.1 (by decide) (by decide)
  · exact (completeCharacters_budget (by decide) ['k'] ['é', '\r'] 9).2.2.2 (by decide) (by decide)

end Input
end CountedConfig
