/-
How a reading comes to its end.

A reading goes from position to position and takes a logical line at each of them.  A turn
makes the position lighter, even one that lays the tail of its line before the input, for the
tail is shorter than the line.  Lines are therefore taken no more often than there are
characters to read, and once more for the line that is laid before the input
(`Input.run_ends`).
-/
import CountedConfig.Reading

namespace CountedConfig
namespace Input

/-- A reading from `i` comes to the position `j` in so many turns. -/
inductive Reaches (i : Input) : Nat → Input → Prop
  | start : Reaches i 0 i
  | turned {n : Nat} {j next : Input} {t : Turn} (h : Reaches i n j) (hs : j.step = .turned t next) :
    Reaches i (n + 1) next

variable {i j next rest : Input} {n : Nat} {t : Turn}

theorem Reaches.behind_step (hs : i.step = .turned t next) (h : Reaches next n j) :
    Reaches i (n + 1) j := by
  induction h with
  | start => exact .turned .start hs
  | turned _ hstep ih => exact .turned ih hstep

/-- What is kept by a turn holds wherever the reading comes to. -/
theorem Reaches.invariant {P : Input → Prop} (hi : P i)
    (hstep : ∀ j t next, P j → j.step = .turned t next → P next) (h : i.Reaches n j) : P j := by
  induction h with
  | start => exact hi
  | turned _ hs ih => exact hstep _ _ _ ih hs

/-- The rest of the history is the history of a reading from where it has come to. -/
theorem Reaches.run_eq (h : i.Reaches n j) :
    ∃ turns, turns.length = n ∧ i.run = { j.run with turns := turns ++ j.run.turns } := by
  induction h with
  | start => exact ⟨[], rfl, rfl⟩
  | @turned n j next t _ hs ih =>
    obtain ⟨turns, hlen, hrun⟩ := ih
    have hj : j.run = { next.run with turns := t :: next.run.turns } := by
      rw [Input.run_eq, hs]
      rfl
    refine ⟨turns ++ [t], by simp [hlen], ?_⟩
    rw [hrun, hj, List.append_assoc]
    rfl

/-- A value that cannot be completed is the error of the reading. -/
theorem Reaches.result_eq_error {line : Text} {number : Nat} {e : ParseError} (h : i.Reaches n j)
    (hs : j.step = .ended (.interrupted line number e) rest) : i.run.result = .error e := by
  obtain ⟨turns, -, hrun⟩ := h.run_eq
  rw [hrun, Input.run_eq j, hs]
  rfl

/-- The position at which the reading ends. -/
theorem exists_reaches_end (i : Input) :
    ∃ j, i.Reaches i.run.turns.length j ∧ j.step = .ended i.run.ending i.run.rest := by
  induction i using run.induct with
  | case1 i ending rest hs =>
    rw [Input.run_eq, hs]
    exact ⟨i, .start, hs⟩
  | case2 i t next hs ih =>
    obtain ⟨j, hj, hend⟩ := ih
    rw [Input.run_eq, hs]
    exact ⟨j, hj.behind_step hs, hend⟩

/-- Each turn of a history was made at a position that the reading came to. -/
theorem exists_reaches_of_mem_turns (h : t ∈ i.run.turns) :
    ∃ n j next, i.Reaches n j ∧ j.step = .turned t next := by
  induction i using run.induct with
  | case1 i ending rest hs =>
    rw [Input.run_eq, hs] at h
    exact absurd h List.not_mem_nil
  | case2 i first next hs ih =>
    rw [Input.run_eq, hs] at h
    rcases List.mem_cons.1 h with rfl | h
    · exact ⟨0, i, next, .start, hs⟩
    · obtain ⟨n, j, after, hj, hstep⟩ := ih h
      exact ⟨n + 1, j, after, hj.behind_step hs, hstep⟩

/-! ### Weight -/

theorem Reaches.weight_le (h : i.Reaches n j) : n + j.weight ≤ i.weight := by
  induction h with
  | start => exact Nat.le_of_eq (Nat.zero_add _)
  | turned _ hs ih =>
    have := weight_step hs
    omega

theorem weight_le (i : Input) : i.weight ≤ i.remaining + (i.injected.getD []).length + 1 := by
  unfold weight
  cases i.injected with
  | none => simp only [Option.getD_none, List.length_nil]; omega
  | some line => simp only [Option.getD_some]; omega

/-- Where a line is taken there is something to take. -/
theorem weight_pos {line : Text} (h : i.nextLine = (.ok (some line), rest)) : 0 < i.weight := by
  have hw := (weight_nextLine h).2
  have hone : 1 ≤ Nat.max line.length 1 := Nat.le_max_right _ _
  omega

/-! ### Tails -/

/-- Behind a turn the tail that the value left is laid before the input, and nothing else. -/
theorem injected_step (hs : i.step = .turned t next) : next.injected = t.leftover := by
  unfold step at hs
  split at hs
  · rename_i line after hl
    have hn := (weight_nextLine hl).1
    unfold turn at hs
    split at hs
    · rename_i unit key count fragment _
      split at hs
      · rename_i c behind hc
        have hinj := injected_complete unit key count fragment after
        rw [hc] at hinj
        simp only [Step.turned.injEq] at hs
        obtain ⟨rfl, rfl⟩ := hs
        cases hleft : c.leftover with
        | none => exact hinj.trans hn
        | some tail => rfl
      · simp at hs
    all_goals
      simp only [Step.turned.injEq] at hs
      obtain ⟨rfl, rfl⟩ := hs
      exact hn
  · simp at hs
  · simp at hs

theorem length_leftover_lt {line tail : Text} (hl : i.nextLine = (.ok (some line), rest))
    (hs : i.step = .turned t next) (ht : t.leftover = some tail) : tail.length < line.length := by
  simp only [step, hl] at hs
  unfold turn at hs
  split at hs
  · rename_i unit key count fragment hk
    split at hs
    · rename_i c behind hc
      simp only [Step.turned.injEq] at hs
      obtain ⟨rfl, -⟩ := hs
      have hle := length_leftover_le hc ht
      have hfragment := LineKind.length_fragment hk
      omega
    · simp at hs
  all_goals
    simp only [Step.turned.injEq] at hs
    obtain ⟨rfl, -⟩ := hs
    simp at ht

/-- A reading comes to its end from any position.  Of the lines that it takes there are at most
as many as characters of the input and of the line before it, and one more; and a tail that a
turn lays before the input is shorter than the line that was taken. -/
theorem run_ends (i : Input) :
    (∃ j, i.Reaches i.run.turns.length j ∧ j.step = .ended i.run.ending i.run.rest) ∧
      ∀ n j line rest, i.Reaches n j → j.nextLine = (.ok (some line), rest) →
        n < i.remaining + (i.injected.getD []).length + 1 ∧
        ∀ t next tail, j.step = .turned t next → next.injected = some tail →
          tail.length < line.length := by
  refine ⟨exists_reaches_end i, fun n j line rest hj hl => ⟨?_, fun t next tail hs ht => ?_⟩⟩
  · have hweight := hj.weight_le
    have hpos := weight_pos hl
    have hbound := weight_le i
    omega
  · exact length_leftover_lt hl hs ((injected_step hs).symm.trans ht)

/-- The line before the input packs a value whose tail is taken before the input is. -/
theorem run_ends_packed :
    let rest := ofBytes [] (Text.encode "q=1".toList)
    let i := rest.inject "a:1c=xb:2c=y".toList
    (∃ j, i.Reaches 3 j ∧ j.step = .ended .complete ⟨[], [], [], none, 1⟩) ∧
      (i.Reaches 2 rest ∧ i.remaining = 3 ∧ 2 < i.remaining + (i.injected.getD []).length + 1) ∧
      i.step =
        .turned ⟨"a:1c=xb:2c=y".toList, true, 0, [], some (['a'], ['x']), some "b:2c=y".toList⟩
          (rest.inject "b:2c=y".toList) ∧
      "b:2c=y".toList.length < "a:1c=xb:2c=y".toList.length := by
  intro rest i
  have hstep : i.step =
      .turned ⟨"a:1c=xb:2c=y".toList, true, 0, [], some (['a'], ['x']), some "b:2c=y".toList⟩
        (rest.inject "b:2c=y".toList) := by decide +kernel +zetaReduce
  have hstep' : (rest.inject "b:2c=y".toList).step =
      .turned ⟨"b:2c=y".toList, true, 0, [], some (['b'], ['y']), none⟩ rest := by
    decide +kernel +zetaReduce
  have hrun : i.run.turns.length = 3 ∧ i.run.ending = .complete ∧
      i.run.rest = ⟨[], [], [], none, 1⟩ := by decide +kernel +zetaReduce
  have hreached : i.Reaches 2 rest := .turned (.turned .start hstep) hstep'
  obtain ⟨hend, hlines⟩ := run_ends i
  rw [hrun.1, hrun.2.1, hrun.2.2] at hend
  obtain ⟨-, htail⟩ := hlines 0 i _ rest .start rfl
  obtain ⟨hbound, -⟩ := hlines 2 rest "q=1".toList ⟨[], [], [], none, 1⟩ hreached (by decide +kernel)
  exact ⟨hend, ⟨hreached, by decide +kernel, hbound⟩, hstep, htail _ _ _ hstep rfl⟩

end Input
end CountedConfig
