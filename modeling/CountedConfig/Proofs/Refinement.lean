/-
An input is read as what is left of it.

Each read of a position does what the same read does to what is left there, a read that
fails as well as one that succeeds.  Whatever is asked of an input, one request after
the other, the answers are therefore those of its lines (`answers_ofBytes`).
-/
import CountedConfig.Proofs.Lines.Cutting
import CountedConfig.Proofs.Remainder

namespace CountedConfig

/-! ### The rest of a request -/

namespace Remainder

open PhysicalLine

/-- What is missing of a request, when the units before it have been taken. -/
def takeRest (unit : CountUnit) (requested missing : Nat) (r : Remainder) :
    Except ReadFailure Text × Remainder :=
  if missing ≤ available unit r.lines then
    (.ok (front missing unit r.lines), ⟨behind missing unit r.lines, r.injected⟩)
  else r.fail (.exhausted unit requested (requested - missing + available unit r.lines))

theorem takeRest_self (unit : CountUnit) (n : Nat) (r : Remainder) :
    takeRest unit n n r = take unit n r := by
  rw [takeRest, take, Nat.sub_self, Nat.zero_add]

theorem takeRest_zero (unit : CountUnit) (requested : Nat) (r : Remainder) :
    takeRest unit requested 0 r = (.ok [], r) := by
  rw [takeRest, if_pos (Nat.zero_le _)]
  cases unit with
  | lines => rfl
  | characters => simp only [front, behind, List.take_zero, dropChars_zero]

variable {requested missing : Nat}

theorem takeRest_nil (unit : CountUnit) (h : missing ≠ 0) (injected : Option Text) :
    takeRest unit requested missing ⟨[], injected⟩ =
      (.error (.exhausted unit requested (requested - missing)), ⟨[], injected⟩) := by
  have ha : available unit [] = 0 := by cases unit <;> rfl
  rw [takeRest, ha, if_neg (by omega), fail, Nat.add_zero]
  rfl

theorem takeRest_undecodable (unit : CountUnit) (h : missing ≠ 0) (more : List PhysicalLine)
    (injected : Option Text) :
    takeRest unit requested missing ⟨.undecodable :: more, injected⟩ =
      (.error (.unreadable .invalidUtf8), ⟨more, injected⟩) := by
  have ha : available unit (.undecodable :: more) = 0 := by cases unit <;> rfl
  rw [takeRest, ha, if_neg (by omega)]
  rfl

/-- A failure is the failure of what follows the lines that were taken. -/
theorem fail_text (failure : ReadFailure) (c : Char) (t : Text) (more : List PhysicalLine)
    (injected : Option Text) :
    fail failure ⟨.text c t :: more, injected⟩ =
      Prod.map (Except.map (c :: t ++ ·)) id (fail failure ⟨more, injected⟩) := by
  simp only [fail, behindFault?]
  split <;> rfl

/-- A line that is taken comes first, and what is missing is taken behind it. -/
theorem takeRest_line (h : missing < requested) (c : Char) (t : Text) (more : List PhysicalLine)
    (injected : Option Text) :
    takeRest .lines requested (missing + 1) ⟨.text c t :: more, injected⟩ =
      Prod.map (Except.map (c :: t ++ ·)) id (takeRest .lines requested missing ⟨more, injected⟩) := by
  have ha : available .lines (.text c t :: more) = available .lines more + 1 := rfl
  unfold takeRest
  simp only [ha, Nat.add_le_add_iff_right]
  split
  · rfl
  · have hn : requested - (missing + 1) + (available .lines more + 1) =
        requested - missing + available .lines more := by omega
    rw [hn, fail_text]

/-- Characters that end inside the first line leave the rest of it. -/
theorem takeRest_within {c : Char} {t : Text} (h : missing ≤ (c :: t).length)
    (more : List PhysicalLine) (injected : Option Text) :
    takeRest .characters requested missing ⟨.text c t :: more, injected⟩ =
      (.ok ((c :: t).take missing), ⟨withRest ((c :: t).drop missing) more, injected⟩) := by
  have ha : missing ≤ available .characters (.text c t :: more) := by
    simp only [available, readable, List.flatten_cons, List.length_append]
    omega
  rw [takeRest, if_pos ha, front, behind, readable, List.flatten_cons, List.take_append_of_le_length h]
  rw [← dropChars_withRest h]
  rfl

/-- A line that does not do is taken as a whole, and what is missing is taken behind it. -/
theorem takeRest_beyond {c : Char} {t : Text} (hl : (c :: t).length < missing)
    (h : missing ≤ requested) (more : List PhysicalLine) (injected : Option Text) :
    takeRest .characters requested missing ⟨.text c t :: more, injected⟩ =
      Prod.map (Except.map (c :: t ++ ·)) id
        (takeRest .characters requested (missing - (c :: t).length) ⟨more, injected⟩) := by
  have ha : available .characters (.text c t :: more) =
      (c :: t).length + available .characters more := by
    simp only [available, readable, List.flatten_cons, List.length_append]
  have hd : dropChars missing (.text c t :: more) = dropChars (missing - (c :: t).length) more :=
    dropChars_withRest_of_le (Nat.le_of_lt hl) more
  have hc : missing ≤ (c :: t).length + available .characters more ↔
      missing - (c :: t).length ≤ available .characters more := by omega
  unfold takeRest
  simp only [ha, hc]
  split
  · have hf : front missing .characters (.text c t :: more) =
        c :: t ++ front (missing - (c :: t).length) .characters more := by
      rw [front, readable, List.flatten_cons, List.take_append,
        List.take_of_length_le (Nat.le_of_lt hl)]
      rfl
    rw [hf, behind, hd]
    rfl
  · have hn : requested - missing + ((c :: t).length + available .characters more) =
        requested - (missing - (c :: t).length) + available .characters more := by omega
    rw [hn, fail_text]

end Remainder

/-! ### Reads -/

namespace Input

open PhysicalLine

/-- What is left of the input at a position. -/
def remainder (i : Input) : Remainder := ⟨withRest i.pending i.unread, i.injected⟩

theorem remainder_readLine (i : Input) : Prod.map id remainder i.readLine = i.remainder.readLine := by
  obtain ⟨origin, unread, pending, injected, number⟩ := i
  cases pending with
  | nil =>
    cases unread with
    | nil => rfl
    | cons line more => cases line <;> rfl
  | cons c t => rfl

theorem pending_readLine {i rest : Input} {line : Text} (h : i.readLine = (.ok (some line), rest)) :
    rest.pending = [] := by
  unfold readLine at h
  split at h
  · rename_i hp
    split at h
    · simp at h
    · simp at h
    · simp only [Prod.mk.injEq] at h
      rw [← h.2]
      exact hp
  · simp only [Prod.mk.injEq] at h
    rw [← h.2]

/-- The line that is read is the first line that is left. -/
theorem remainder_of_readLine {i rest : Input} {line : Text}
    (h : i.readLine = (.ok (some line), rest)) :
    ∃ c t, line = c :: t ∧ i.remainder = ⟨.text c t :: rest.unread, i.injected⟩ ∧
      rest.remainder = ⟨rest.unread, i.injected⟩ := by
  have hr := remainder_readLine i
  have hp := pending_readLine h
  have hrest : rest.remainder = ⟨rest.unread, rest.injected⟩ := by rw [remainder, hp]; rfl
  have hi : i.remainder.injected = i.injected := rfl
  rw [h] at hr
  generalize i.remainder = r at hr hi ⊢
  obtain ⟨_ | ⟨_ | _, more⟩, injected⟩ := r
  · simp [Remainder.readLine] at hr
  · simp only [Remainder.readLine, Prod.map_apply, id, hrest, Prod.mk.injEq, Except.ok.injEq,
      Option.some.injEq, Remainder.mk.injEq] at hr
    obtain ⟨rfl, rfl, rfl⟩ := hr
    exact ⟨_, _, rfl, by rw [← hi], by rw [hrest, ← hi]⟩
  · simp [Remainder.readLine] at hr

theorem remainder_of_readLine_end {i rest : Input} (h : i.readLine = (.ok none, rest)) :
    i.remainder = ⟨[], i.injected⟩ ∧ rest = i := by
  obtain ⟨hu, hp, rfl⟩ := readLine_eq_none h
  rw [remainder, hu, hp]
  exact ⟨rfl, rfl⟩

/-- The one thing that goes wrong in reading a line is that it is no text. -/
theorem remainder_of_readLine_error {i rest : Input} {e : ReadError}
    (h : i.readLine = (.error e, rest)) :
    ∃ more, e = .invalidUtf8 ∧ i.remainder = ⟨.undecodable :: more, i.injected⟩ ∧
      rest.remainder = ⟨more, i.injected⟩ := by
  have hr := remainder_readLine i
  have hi : i.remainder.injected = i.injected := rfl
  rw [h] at hr
  generalize i.remainder = r at hr hi ⊢
  obtain ⟨_ | ⟨_ | _, more⟩, injected⟩ := r
  · simp [Remainder.readLine] at hr
  · simp [Remainder.readLine] at hr
  · simp only [Remainder.readLine, Prod.map_apply, id, Prod.mk.injEq, Except.error.injEq] at hr
    obtain ⟨rfl, hrest⟩ := hr
    exact ⟨more, rfl, by rw [← hi], by rw [hrest, ← hi]⟩

theorem remainder_nextLine (i : Input) : Prod.map id remainder i.nextLine = i.remainder.nextLine := by
  have hi : i.remainder.injected = i.injected := rfl
  unfold nextLine Remainder.nextLine
  rw [hi]
  cases i.injected with
  | some line => rfl
  | none => exact remainder_readLine i

theorem remainder_prepend (t : Text) (r : Except ReadFailure Text × Input) :
    Prod.map id remainder (prepend t r) =
      Prod.map (Except.map (t ++ ·)) id (Prod.map id remainder r) := by
  rcases r with ⟨_ | _, _⟩ <;> rfl

theorem remainder_takeLines {requested missing : Nat} (h : missing ≤ requested) (i : Input) :
    Prod.map id remainder (takeLines requested missing i) =
      i.remainder.takeRest .lines requested missing := by
  induction missing generalizing i with
  | zero => rw [takeLines, Remainder.takeRest_zero]; rfl
  | succ missing ih =>
    unfold takeLines
    split
    · rename_i line rest hr
      obtain ⟨c, t, rfl, hi, hrest⟩ := remainder_of_readLine hr
      rw [remainder_prepend, ih (Nat.le_of_succ_le h), hrest, hi, Remainder.takeRest_line h]
    · rename_i rest hr
      obtain ⟨hi, rfl⟩ := remainder_of_readLine_end hr
      rw [hi, Remainder.takeRest_nil .lines (Nat.succ_ne_zero _), Prod.map_apply, hi]
      rfl
    · rename_i e rest hr
      obtain ⟨more, rfl, hi, hrest⟩ := remainder_of_readLine_error hr
      rw [hi, Remainder.takeRest_undecodable .lines (Nat.succ_ne_zero _), Prod.map_apply, hrest]
      rfl

theorem remainder_takeChars {requested missing : Nat} (h : missing ≤ requested) (i : Input) :
    Prod.map id remainder (takeChars requested missing i) =
      i.remainder.takeRest .characters requested missing := by
  fun_induction takeChars requested missing i with
  | case1 i => rw [Remainder.takeRest_zero]; rfl
  | case2 missing i hm line rest hr hl =>
    obtain ⟨c, t, rfl, hi, hrest⟩ := remainder_of_readLine hr
    have hinj : rest.injected = i.injected := congrArg Remainder.injected hrest
    rw [hi, Remainder.takeRest_within hl, Prod.map_apply, remainder, hinj]
    rfl
  | case3 missing i hm line rest hr hl ih =>
    obtain ⟨c, t, rfl, hi, hrest⟩ := remainder_of_readLine hr
    rw [remainder_prepend, ih (Nat.le_trans (Nat.sub_le _ _) h), hrest, hi,
      Remainder.takeRest_beyond (Nat.lt_of_not_le hl) h]
  | case4 missing i hm rest hr =>
    obtain ⟨hi, rfl⟩ := remainder_of_readLine_end hr
    rw [hi, Remainder.takeRest_nil .characters hm, Prod.map_apply, hi]
    rfl
  | case5 missing i hm e rest hr =>
    obtain ⟨more, rfl, hi, hrest⟩ := remainder_of_readLine_error hr
    rw [hi, Remainder.takeRest_undecodable .characters hm, Prod.map_apply, hrest]
    rfl

def next (unit : CountUnit) (n : Nat) (i : Input) : Except ReadFailure Text × Input :=
  match unit with
  | .lines => i.nextLines n
  | .characters => i.nextChars n

theorem remainder_next (unit : CountUnit) (n : Nat) (i : Input) :
    Prod.map id remainder (i.next unit n) = i.remainder.take unit n := by
  rw [← Remainder.takeRest_self]
  cases unit with
  | lines => exact remainder_takeLines (Nat.le_refl n) i
  | characters => exact remainder_takeChars (Nat.le_refl n) i

/-- A result whose view is known, and the position behind it. -/
theorem exists_of_remainder {α : Type} {r : α × Input} {a : α} {s : Remainder}
    (h : Prod.map id remainder r = (a, s)) : ∃ next, r = (a, next) ∧ next.remainder = s := by
  obtain ⟨b, next⟩ := r
  simp only [Prod.map_apply, id, Prod.mk.injEq] at h
  exact ⟨next, by rw [h.1], h.2⟩

theorem next_of_le {unit : CountUnit} {n : Nat} {i : Input}
    (h : n ≤ available unit i.remainder.lines) :
    ∃ rest, i.next unit n = (.ok (front n unit i.remainder.lines), rest) ∧
      rest.remainder = ⟨behind n unit i.remainder.lines, i.injected⟩ := by
  have hr := remainder_next unit n i
  rw [Remainder.take, if_pos h] at hr
  exact exists_of_remainder hr

theorem next_of_lt {unit : CountUnit} {n : Nat} {i : Input} (hi : .undecodable ∉ i.unread)
    (h : available unit i.remainder.lines < n) :
    ∃ rest, i.next unit n = (.error (.exhausted unit n (available unit i.remainder.lines)), rest) ∧
      rest.remainder = ⟨[], i.injected⟩ := by
  have hf : behindFault? i.remainder.lines = none :=
    behindFault?_eq_none_iff.2 (mt undecodable_mem_withRest.1 hi)
  have hr := remainder_next unit n i
  rw [Remainder.take_eq_exhausted_of_lt hf h] at hr
  exact exists_of_remainder hr

end Input

/-! ### Requests one after the other -/

inductive Request where
  | line
  | next (unit : CountUnit) (n : Nat)
  | inject (line : Text)
  deriving DecidableEq, Repr

inductive Answer where
  | line (result : Except ReadError (Option Text))
  | text (result : Except ReadFailure Text)
  | done
  deriving DecidableEq

def Input.answer (i : Input) : Request → Answer × Input
  | .line => Prod.map .line id i.nextLine
  | .next unit n => Prod.map .text id (i.next unit n)
  | .inject line => (.done, i.inject line)

def Remainder.answer (r : Remainder) : Request → Answer × Remainder
  | .line => Prod.map .line id r.nextLine
  | .next unit n => Prod.map .text id (r.take unit n)
  | .inject line => (.done, r.inject line)

/-- The answers to requests that are made one after the other. -/
def answers {State : Type} (answer : State → Request → Answer × State) :
    State → List Request → List Answer
  | _, [] => []
  | s, q :: more => (answer s q).1 :: answers answer (answer s q).2 more

theorem Input.remainder_answer (i : Input) (q : Request) :
    Prod.map id remainder (i.answer q) = i.remainder.answer q := by
  cases q with
  | line => exact congrArg (Prod.map Answer.line id) (remainder_nextLine i)
  | next unit n => exact congrArg (Prod.map Answer.text id) (remainder_next unit n i)
  | inject line => rfl

theorem Input.answers_eq (i : Input) (requests : List Request) :
    answers answer i requests = answers Remainder.answer i.remainder requests := by
  induction requests generalizing i with
  | nil => rfl
  | cons q more ih => rw [answers, answers, ih, ← remainder_answer]; rfl

/-- Whatever is asked of an input from its start on, the answers are those of its lines with
no line laid before them. -/
theorem Input.answers_ofBytes (origin : Text) (b : Bytes) :
    ∃ lines, PhysicalLine.LinesOf b lines ∧ ∀ requests,
      answers answer (ofBytes origin b) requests = answers Remainder.answer ⟨lines, none⟩ requests :=
  ⟨PhysicalLine.ofInput b, PhysicalLine.linesOf_ofInput b, answers_eq (ofBytes origin b)⟩

/-- Reads that end inside a line, before a line that is no text, behind it and at the end. -/
example : answers Remainder.answer
    ⟨[.text 'a' ['b', '\n'], .undecodable, .text 'c' ['d', '\n'], .text 'e' []], none⟩
    [.next .characters 1, .inject ['x'], .next .lines 2, .next .characters 4, .line,
      .next .lines 2, .next .lines 1] =
    [.text (.ok ['a']), .done, .text (.error (.unreadable .invalidUtf8)),
      .text (.ok ['c', 'd', '\n', 'e']), .line (.ok (some ['x'])),
      .text (.error (.exhausted .lines 2 0)), .text (.error (.exhausted .lines 1 0))] := by
  decide

end CountedConfig
