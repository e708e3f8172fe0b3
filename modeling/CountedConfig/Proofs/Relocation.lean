/-
The name of an input, and the lines that were read before it.

A position carries both, for messages alone.  `relocate` gives a position another
name and puts lines before it.  Every read commutes with it, and so does a whole
reading (`run_relocate`): the turns keep their entries, and an error changes in
nothing but the name of the input that could not be read.
-/
import CountedConfig.Reading

namespace CountedConfig

/-- The same error, told of an input of another name. -/
def ParseError.rename (origin : Text) : ParseError → ParseError
  | .truncated key unit requested available => .truncated key unit requested available
  | .unreadable _ cause => .unreadable origin cause

/-- The same turn, with `n` more lines before it. -/
def Turn.relocate (n : Nat) (t : Turn) : Turn := { t with number := t.number + n }

/-- The same ending in an input of another name, with `n` more lines before it. -/
def Ending.relocate (origin : Text) (n : Nat) : Ending → Ending
  | .complete => .complete
  | .unreadable cause => .unreadable cause
  | .interrupted line number error => .interrupted line (number + n) (error.rename origin)

/-- The same position in an input of another name, with `n` more lines before it. -/
def Input.relocate (origin : Text) (n : Nat) (i : Input) : Input :=
  { i with origin := origin, lineNumber := i.lineNumber + n }

def Step.relocate (origin : Text) (n : Nat) : Step → Step
  | .ended ending rest => .ended (ending.relocate origin n) (rest.relocate origin n)
  | .turned t rest => .turned (t.relocate n) (rest.relocate origin n)

def Run.relocate (origin : Text) (n : Nat) (r : Run) : Run :=
  ⟨r.turns.map (Turn.relocate n), r.ending.relocate origin n, r.rest.relocate origin n⟩

/-! ### Reads -/

namespace Input

variable (origin : Text) (n : Nat)

theorem relocate_self (i : Input) : i.relocate i.origin 0 = i := rfl

/-- The start of an input behind other lines. -/
theorem relocate_ofBytes (name : Text) (b : Bytes) :
    (ofBytes name b).relocate origin n = ⟨origin, PhysicalLine.ofInput b, [], none, n⟩ := by
  simp [ofBytes, relocate]

theorem readLine_relocate (i : Input) :
    (i.relocate origin n).readLine = (i.readLine.1, i.readLine.2.relocate origin n) := by
  by_cases hp : i.pending = []
  · cases hu : i.unread with
    | nil => simp [readLine, relocate, hp, hu]
    | cons line more => cases line <;> simp [readLine, relocate, hp, hu, Nat.add_right_comm]
  · simp [readLine, relocate, hp]

theorem nextLine_relocate (i : Input) :
    (i.relocate origin n).nextLine = (i.nextLine.1, i.nextLine.2.relocate origin n) := by
  have hi : (i.relocate origin n).injected = i.injected := rfl
  unfold nextLine
  rw [hi]
  split
  · rfl
  · exact readLine_relocate origin n i

theorem prepend_relocate (t : Text) (r : Except ReadFailure Text) (i : Input) :
    prepend t (r, i.relocate origin n) =
      ((prepend t (r, i)).1, (prepend t (r, i)).2.relocate origin n) := by
  cases r <;> rfl

theorem takeLines_relocate (requested missing : Nat) (i : Input) :
    takeLines requested missing (i.relocate origin n) =
      ((takeLines requested missing i).1, (takeLines requested missing i).2.relocate origin n) := by
  induction missing generalizing i with
  | zero => rfl
  | succ missing ih =>
    rw [takeLines, takeLines, readLine_relocate]
    rcases i.readLine with ⟨_ | _ | line, rest⟩
    · rfl
    · rfl
    · simp only [ih]
      exact prepend_relocate origin n line _ _

theorem takeChars_relocate (requested missing : Nat) (i : Input) :
    takeChars requested missing (i.relocate origin n) =
      ((takeChars requested missing i).1, (takeChars requested missing i).2.relocate origin n) := by
  fun_induction takeChars requested missing i with
  | case1 => rw [takeChars]; rfl
  | case2 missing i hm line rest h hl =>
    rw [takeChars, if_neg hm, readLine_relocate, h]
    simp only [if_pos hl]
    rfl
  | case3 missing i hm line rest h hl ih =>
    rw [takeChars, if_neg hm, readLine_relocate, h]
    simp only [if_neg hl, ih]
    exact prepend_relocate origin n line _ _
  | case4 missing i hm rest h => rw [takeChars, if_neg hm, readLine_relocate, h]
  | case5 missing i hm e rest h => rw [takeChars, if_neg hm, readLine_relocate, h]

theorem continued_relocate (key fragment : Text) (i : Input) (r : Except ReadFailure Text)
    (rest : Input) :
    continued key fragment (i.relocate origin n) (r, rest.relocate origin n) =
      ((continued key fragment i (r, rest)).1.mapError (.rename origin),
        (continued key fragment i (r, rest)).2.relocate origin n) := by
  rcases r with (_ | _) | _ <;> rfl

theorem complete_relocate (unit : CountUnit) (key : Text) (count : Nat) (fragment : Text)
    (i : Input) :
    complete unit key count fragment (i.relocate origin n) =
      ((complete unit key count fragment i).1.mapError (.rename origin),
        (complete unit key count fragment i).2.relocate origin n) := by
  cases unit with
  | lines =>
    simp only [complete, completeLines, nextLines]
    split
    · rw [takeLines_relocate]
      exact continued_relocate origin n key fragment i _ _
    · rfl
  | characters =>
    simp only [complete, completeCharacters, nextChars]
    split
    · rw [takeChars_relocate]
      exact continued_relocate origin n key fragment i _ _
    · split <;> rfl

theorem handBack_relocate (leftover : Option Text) (i : Input) :
    (i.relocate origin n).handBack leftover = (i.handBack leftover).relocate origin n := by
  cases leftover <;> rfl

/-! ### Readings -/

theorem turn_relocate (line : Text) (injected : Bool) (i : Input) :
    turn line injected (i.relocate origin n) = (turn line injected i).relocate origin n := by
  unfold turn
  split
  · rename_i unit key count fragment _
    rw [complete_relocate]
    rcases complete unit key count fragment i with ⟨e | c, rest⟩
    · rfl
    · exact congrArg (Step.turned _) (handBack_relocate origin n c.leftover rest)
  all_goals rfl

theorem step_relocate (i : Input) : (i.relocate origin n).step = i.step.relocate origin n := by
  unfold step
  rw [nextLine_relocate]
  rcases i.nextLine with ⟨_ | _ | line, rest⟩
  · rfl
  · rfl
  · exact turn_relocate origin n line i.injected.isSome rest

theorem run_relocate (i : Input) : (i.relocate origin n).run = i.run.relocate origin n := by
  induction i using run.induct with
  | case1 i ending rest h =>
    rw [run_eq, run_eq, step_relocate, h]
    rfl
  | case2 i t next h ih =>
    rw [run_eq, run_eq i, step_relocate, h]
    simp only [Step.relocate, Step.run, ih]
    rfl

end Input

/-! ### What a reading comes to -/

namespace Run

theorem entries_relocate (origin : Text) (n : Nat) (r : Run) :
    (r.relocate origin n).entries = r.entries := by
  rw [entries, entries, relocate, List.filterMap_map]
  rfl

theorem error?_relocate (origin : Text) (n : Nat) (r : Run) :
    (r.relocate origin n).error? = r.error?.map (.rename origin) := by
  obtain ⟨turns, ending, rest⟩ := r
  cases ending <;> rfl

end Run

/-- An error tells of the input that was read. -/
theorem Input.rename_error?_run (i : Input) : i.run.error?.map (.rename i.origin) = i.run.error? := by
  rw [← Run.error?_relocate i.origin 0, ← run_relocate, relocate_self]

/-- The name of an input comes up in errors and nowhere else. -/
theorem parse_rename (origin name : Text) (b : Bytes) :
    parse origin b = (parse name b).mapError (.rename origin) := by
  have h : (Input.ofBytes origin b).run = (Input.ofBytes name b).run.relocate origin 0 := by
    rw [← Input.run_relocate]
    rfl
  unfold parse Run.result
  rw [h, Run.error?_relocate, Run.entries_relocate]
  cases (Input.ofBytes name b).run.error? <;> rfl

end CountedConfig
