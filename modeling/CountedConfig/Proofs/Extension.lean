/-
An input that goes on.

A read that succeeds has not looked behind what it took, so it does the same when
more lines follow.  A reading that comes to the end of an input therefore goes on,
when there is more, as a reading of what follows: nothing is pending at the end and
no line is laid before the input (`run_extend`).
-/
import CountedConfig.Reading

namespace CountedConfig

/-- One history and then another. -/
def Run.followedBy (r s : Run) : Run := { s with turns := r.turns ++ s.turns }

namespace Input

/-- The same position when more lines follow the input. -/
def extend (more : List PhysicalLine) (i : Input) : Input := { i with unread := i.unread ++ more }

variable {more : List PhysicalLine} {i rest : Input}

/-! ### Reads that succeed -/

theorem readLine_extend {line : Text} (h : i.readLine = (.ok (some line), rest)) :
    (i.extend more).readLine = (.ok (some line), rest.extend more) := by
  by_cases hp : i.pending = []
  · cases hu : i.unread with
    | nil => simp [readLine, hp, hu] at h
    | cons first others =>
      cases first with
      | undecodable => simp [readLine, hp, hu] at h
      | text c l =>
        simp only [readLine, hp, hu, if_true, Prod.mk.injEq, Except.ok.injEq,
          Option.some.injEq] at h
        obtain ⟨rfl, rfl⟩ := h
        simp [readLine, extend, hp, hu]
  · simp only [readLine, hp, if_false, Prod.mk.injEq, Except.ok.injEq, Option.some.injEq] at h
    obtain ⟨rfl, rfl⟩ := h
    simp [readLine, extend, hp]

theorem nextLine_extend {line : Text} (h : i.nextLine = (.ok (some line), rest)) :
    (i.extend more).nextLine = (.ok (some line), rest.extend more) := by
  have hi : (i.extend more).injected = i.injected := rfl
  unfold nextLine at h ⊢
  rw [hi]
  split at h
  · simp only [Prod.mk.injEq, Except.ok.injEq, Option.some.injEq] at h
    obtain ⟨rfl, rfl⟩ := h
    rfl
  · exact readLine_extend h

theorem takeLines_extend {requested missing : Nat} {t : Text}
    (h : takeLines requested missing i = (.ok t, rest)) :
    takeLines requested missing (i.extend more) = (.ok t, rest.extend more) := by
  induction missing generalizing i t with
  | zero =>
    simp only [takeLines, Prod.mk.injEq, Except.ok.injEq] at h
    obtain ⟨rfl, rfl⟩ := h
    rfl
  | succ missing ih =>
    rw [takeLines] at h ⊢
    split at h
    · rename_i line next hr
      obtain ⟨u, hu, rfl⟩ := prepend_eq_ok h
      rw [readLine_extend hr]
      simp only [ih hu]
      rfl
    · simp at h
    · simp at h

theorem takeChars_extend {requested missing : Nat} {t : Text}
    (h : takeChars requested missing i = (.ok t, rest)) :
    takeChars requested missing (i.extend more) = (.ok t, rest.extend more) := by
  fun_induction takeChars requested missing i generalizing t with
  | case1 i =>
    simp only [Prod.mk.injEq, Except.ok.injEq] at h
    obtain ⟨rfl, rfl⟩ := h
    rw [takeChars, if_pos rfl]
  | case2 missing i hm line next hr hl =>
    simp only [Prod.mk.injEq, Except.ok.injEq] at h
    obtain ⟨rfl, rfl⟩ := h
    rw [takeChars, if_neg hm, readLine_extend hr]
    simp only [if_pos hl]
    rfl
  | case3 missing i hm line next hr hl ih =>
    obtain ⟨u, hu, rfl⟩ := prepend_eq_ok h
    rw [takeChars, if_neg hm, readLine_extend hr]
    simp only [if_neg hl, ih hu]
    rfl
  | case4 => simp at h
  | case5 => simp at h

theorem continued_eq_ok {key fragment : Text} {r : Except ReadFailure Text × Input}
    {c : Completion} (h : continued key fragment i r = (.ok c, rest)) :
    ∃ u, r = (.ok u, rest) ∧ c = ⟨u, Text.dropLineBreaks (fragment ++ '\n' :: u), none⟩ := by
  rcases r with ⟨e | u, next⟩
  · simp [continued] at h
  · simp only [continued, Prod.mk.injEq, Except.ok.injEq] at h
    obtain ⟨rfl, rfl⟩ := h
    exact ⟨u, rfl, rfl⟩

theorem complete_extend {unit : CountUnit} {key : Text} {count : Nat} {fragment : Text}
    {c : Completion} (h : complete unit key count fragment i = (.ok c, rest)) :
    complete unit key count fragment (i.extend more) = (.ok c, rest.extend more) := by
  -- A value that is complete with its fragment reads nothing.
  have still : ∀ d : Completion, ((.ok d, i) : Except ParseError Completion × Input) = (.ok c, rest) →
      ((.ok d, i.extend more) : Except ParseError Completion × Input) = (.ok c, rest.extend more) := by
    intro d hd
    simp only [Prod.mk.injEq, Except.ok.injEq] at hd
    rw [hd.1, hd.2]
  cases unit with
  | lines =>
    simp only [complete, completeLines, nextLines] at h ⊢
    split at h
    · rename_i hc
      obtain ⟨u, hu, rfl⟩ := continued_eq_ok h
      rw [if_pos hc, takeLines_extend hu]
      rfl
    · rename_i hc
      rw [if_neg hc]
      exact still _ h
  | characters =>
    simp only [complete, completeCharacters, nextChars] at h ⊢
    split at h
    · rename_i hc
      obtain ⟨u, hu, rfl⟩ := continued_eq_ok h
      rw [if_pos hc, takeChars_extend hu]
      rfl
    · rename_i hc
      rw [if_neg hc]
      split at h
      · rename_i he
        rw [if_pos he]
        exact still _ h
      · rename_i he
        rw [if_neg he]
        exact still _ h

theorem handBack_extend (leftover : Option Text) (i : Input) :
    (i.extend more).handBack leftover = (i.handBack leftover).extend more := by
  cases leftover <;> rfl

/-! ### Turns -/

theorem turn_extend {line : Text} {injected : Bool} {t : Turn}
    (h : turn line injected i = .turned t rest) :
    turn line injected (i.extend more) = .turned t (rest.extend more) := by
  unfold turn at h ⊢
  split at h
  · split at h
    · rename_i c after hc
      simp only [Step.turned.injEq] at h
      obtain ⟨rfl, rfl⟩ := h
      simp only [complete_extend hc, handBack_extend]
      rfl
    · simp at h
  all_goals
    simp only [Step.turned.injEq] at h
    obtain ⟨rfl, rfl⟩ := h
    rfl

theorem step_extend {t : Turn} (h : i.step = .turned t rest) :
    (i.extend more).step = .turned t (rest.extend more) := by
  have hi : (i.extend more).injected = i.injected := rfl
  unfold step at h ⊢
  split at h
  · rename_i line next hl
    rw [nextLine_extend hl, hi]
    exact turn_extend h
  · simp at h
  · simp at h

/-! ### The end of an input -/

/-- Nothing is left to read of the input, and no line is laid before it. -/
structure AtEnd (i : Input) : Prop where
  unread : i.unread = []
  pending : i.pending = []
  injected : i.injected = none

theorem turn_ne_complete (line : Text) (injected : Bool) (i rest : Input) :
    turn line injected i ≠ .ended .complete rest := by
  unfold turn
  split
  · split <;> simp
  all_goals simp

theorem atEnd_of_step (h : i.step = .ended .complete rest) : rest = i ∧ i.AtEnd := by
  unfold step at h
  split at h
  · exact absurd h (turn_ne_complete _ _ _ _)
  · rename_i next hn
    simp only [Step.ended.injEq, true_and] at h
    unfold nextLine at hn
    split at hn
    · simp at hn
    · rename_i hi
      obtain ⟨hu, hp, rfl⟩ := readLine_eq_none hn
      exact ⟨h.symm, hu, hp, hi⟩
  · simp at h

/-- A reading that comes to the end goes on with what follows. -/
theorem run_extend (more : List PhysicalLine) (h : i.run.ending = .complete) :
    i.run.rest.AtEnd ∧ (i.extend more).run = i.run.followedBy (i.run.rest.extend more).run := by
  induction i using run.induct with
  | case1 i ending rest hs =>
    have hr : i.run = ⟨[], ending, rest⟩ := by rw [run_eq, hs]; rfl
    rw [hr] at h ⊢
    obtain rfl : ending = .complete := h
    obtain ⟨rfl, hend⟩ := atEnd_of_step hs
    exact ⟨hend, rfl⟩
  | case2 i t next hs ih =>
    have hr : i.run = { next.run with turns := t :: next.run.turns } := by rw [run_eq, hs]; rfl
    rw [hr] at h ⊢
    obtain ⟨hend, he⟩ := ih h
    refine ⟨hend, ?_⟩
    rw [run_eq, step_extend hs]
    simp only [Step.run, he]
    rfl

end Input
end CountedConfig
