/-
A position in an input that is read by lines and by characters.

A read by characters may stop inside a physical line; what is left of the line is
then `pending`, and comes first in the next read of either kind.  One line can be
laid before the input (`inject`).  It is handed out by `nextLine` and by nothing
else: `nextLines` and `nextChars` read the input itself.

Reads that fail have read.  An input that ends too soon is empty afterwards, and a
line that cannot be decoded is behind the position, together with all that the
same read had taken before it.
-/
import CountedConfig.Error
import CountedConfig.Input.PhysicalLine

namespace CountedConfig

structure Input where
  origin : Text
  unread : List PhysicalLine
  /-- What is left of the line that the last read stopped in. -/
  pending : Text
  /-- The line laid before the input. -/
  injected : Option Text
  /-- How many physical lines have been brought in. -/
  lineNumber : Nat
  deriving DecidableEq, Repr

namespace Input

def ofBytes (origin : Text) (b : Bytes) : Input :=
  ⟨origin, PhysicalLine.ofInput b, [], none, 0⟩

/-- Lays a line before the input, in place of one that was there. -/
def inject (line : Text) (i : Input) : Input := { i with injected := some line }

/-- The rest of the line the position is in, or else the next physical line.
`none` is the end of the input. -/
def readLine (i : Input) : Except ReadError (Option Text) × Input :=
  if i.pending = [] then
    match i.unread with
    | [] => (.ok none, i)
    | .undecodable :: more => (.error .invalidUtf8, { i with unread := more })
    | .text c rest :: more =>
      (.ok (some (c :: rest)), { i with unread := more, lineNumber := i.lineNumber + 1 })
  else (.ok (some i.pending), { i with pending := [] })

/-- The next logical line: the injected line if there is one, else a line of the
input. -/
def nextLine (i : Input) : Except ReadError (Option Text) × Input :=
  match i.injected with
  | some line => (.ok (some line), { i with injected := none })
  | none => i.readLine

/-- What a read comes to when it took a text before and then went on. -/
def prepend (t : Text) : Except ReadFailure Text × Input → Except ReadFailure Text × Input
  | (.ok more, rest) => (.ok (t ++ more), rest)
  | (.error e, rest) => (.error e, rest)

/-- The lines that are still missing of a request, joined. -/
def takeLines (requested : Nat) : Nat → Input → Except ReadFailure Text × Input
  | 0, i => (.ok [], i)
  | missing + 1, i =>
    match i.readLine with
    | (.ok (some line), rest) => prepend line (takeLines requested missing rest)
    | (.ok none, rest) =>
      (.error (.exhausted .lines requested (requested - (missing + 1))), rest)
    | (.error e, rest) => (.error (.unreadable e), rest)

/-- The next `n` lines of the input, joined.  The rest of a line counts as one. -/
def nextLines (n : Nat) (i : Input) : Except ReadFailure Text × Input := takeLines n n i

/-- The characters that can still be read from the input itself. -/
def remaining (i : Input) : Nat := i.pending.length + PhysicalLine.totalSize i.unread

theorem remaining_readLine {i rest : Input} {line : Text} (h : i.readLine = (.ok (some line), rest)) :
    rest.remaining + line.length = i.remaining ∧ 0 < line.length := by
  unfold readLine at h
  split at h
  · rename_i hp
    split at h
    · simp at h
    · simp at h
    · rename_i hu
      simp only [Prod.mk.injEq, Except.ok.injEq, Option.some.injEq] at h
      obtain ⟨rfl, rfl⟩ := h
      simp [remaining, hu, hp, PhysicalLine.totalSize, PhysicalLine.size]
      omega
  · rename_i hp
    simp only [Prod.mk.injEq, Except.ok.injEq, Option.some.injEq] at h
    obtain ⟨rfl, rfl⟩ := h
    refine ⟨by simp [remaining]; omega, List.length_pos_iff.2 hp⟩

/-- The characters that are still missing of a request.  Each line gives what it has,
and the rest of the last one stays pending. -/
def takeChars (requested missing : Nat) (i : Input) : Except ReadFailure Text × Input :=
  if missing = 0 then (.ok [], i)
  else match _h : i.readLine with
    | (.ok (some line), rest) =>
      if missing ≤ line.length then
        (.ok (line.take missing), { rest with pending := line.drop missing })
      else prepend line (takeChars requested (missing - line.length) rest)
    | (.ok none, rest) => (.error (.exhausted .characters requested (requested - missing)), rest)
    | (.error e, rest) => (.error (.unreadable e), rest)
termination_by missing
decreasing_by
  have := (remaining_readLine _h).2
  omega

def nextChars (n : Nat) (i : Input) : Except ReadFailure Text × Input := takeChars n n i

/-- A bound on the number of lines that can still be handed out. -/
def weight (i : Input) : Nat :=
  i.remaining + match i.injected with
    | some line => line.length + 1
    | none => 0

/-! ### What each read leaves -/

theorem remaining_readLine_le (i : Input) : i.readLine.2.remaining ≤ i.remaining := by
  unfold readLine remaining
  split
  · split
    · exact Nat.le_refl _
    · rename_i h; simp [h, PhysicalLine.totalSize, PhysicalLine.size]
    · rename_i h; simp [h, PhysicalLine.totalSize]
  · simp

theorem injected_readLine (i : Input) : i.readLine.2.injected = i.injected := by
  unfold readLine
  split
  · split <;> rfl
  · rfl

/-- Only at the end of the input there is no line. -/
theorem readLine_eq_none {i rest : Input} (h : i.readLine = (.ok none, rest)) :
    i.unread = [] ∧ i.pending = [] ∧ rest = i := by
  unfold readLine at h
  split at h
  · rename_i hp
    split at h
    · rename_i hu
      simp only [Prod.mk.injEq, true_and] at h
      exact ⟨hu, hp, h.symm⟩
    · simp at h
    · simp at h
  · simp at h

theorem prepend_eq_ok {line t : Text} {r : Except ReadFailure Text × Input} {rest : Input}
    (h : prepend line r = (.ok t, rest)) : ∃ u, r = (.ok u, rest) ∧ t = line ++ u := by
  rcases r with ⟨e | u, next⟩
  · simp [prepend] at h
  · simp only [prepend, Prod.mk.injEq, Except.ok.injEq] at h
    obtain ⟨rfl, rfl⟩ := h
    exact ⟨u, rfl, rfl⟩

@[simp] theorem snd_prepend (t : Text) (r : Except ReadFailure Text × Input) :
    (prepend t r).2 = r.2 := by
  rcases r with ⟨_ | _, _⟩ <;> rfl

theorem remaining_takeLines_le (requested missing : Nat) (i : Input) :
    (takeLines requested missing i).2.remaining ≤ i.remaining := by
  induction missing generalizing i with
  | zero => exact Nat.le_refl _
  | succ missing ih =>
    have hr := remaining_readLine_le i
    unfold takeLines
    split
    · rename_i line rest h
      rw [h] at hr
      rw [snd_prepend]
      exact Nat.le_trans (ih rest) hr
    · rename_i h; rw [h] at hr; exact hr
    · rename_i h; rw [h] at hr; exact hr

theorem injected_takeLines (requested missing : Nat) (i : Input) :
    (takeLines requested missing i).2.injected = i.injected := by
  induction missing generalizing i with
  | zero => rfl
  | succ missing ih =>
    have hr := injected_readLine i
    unfold takeLines
    split
    · rename_i line rest h
      rw [h] at hr
      rw [snd_prepend]
      exact (ih rest).trans hr
    · rename_i h; rw [h] at hr; exact hr
    · rename_i h; rw [h] at hr; exact hr

theorem remaining_takeChars_le (requested missing : Nat) (i : Input) :
    (takeChars requested missing i).2.remaining ≤ i.remaining := by
  fun_induction takeChars requested missing i with
  | case1 => exact Nat.le_refl _
  | case2 missing i _ line rest h =>
    have hr := (remaining_readLine h).1
    simp only [remaining, List.length_drop] at hr ⊢
    omega
  | case3 missing i _ line rest h _ ih =>
    have hr := remaining_readLine_le i
    rw [h] at hr
    rw [snd_prepend]
    exact Nat.le_trans ih hr
  | case4 missing i _ rest h => have hr := remaining_readLine_le i; rw [h] at hr; exact hr
  | case5 missing i _ e rest h => have hr := remaining_readLine_le i; rw [h] at hr; exact hr

theorem injected_takeChars (requested missing : Nat) (i : Input) :
    (takeChars requested missing i).2.injected = i.injected := by
  fun_induction takeChars requested missing i with
  | case1 => rfl
  | case2 missing i _ line rest h => have hr := injected_readLine i; rw [h] at hr; exact hr
  | case3 missing i _ line rest h _ ih =>
    have hr := injected_readLine i
    rw [h] at hr
    rw [snd_prepend]
    exact ih.trans hr
  | case4 missing i _ rest h => have hr := injected_readLine i; rw [h] at hr; exact hr
  | case5 missing i _ e rest h => have hr := injected_readLine i; rw [h] at hr; exact hr

end Input
end CountedConfig
