/-
What is left of an input, seen as one sequence of lines.

A position keeps what is left in two places, the rest of the line that the last read
stopped in and the lines behind it.  A `Remainder` does not, and its reads are said of
all that is left at once: a read gives the first lines or the first characters of the
text before the first line that is no text, or it fails, and then all up to that line,
or to the end, is gone.
-/
import CountedConfig.Input

namespace CountedConfig

namespace PhysicalLine

/-- The lines in front of the first one that is no text. -/
def readable : List PhysicalLine → List Text
  | .text c rest :: more => (c :: rest) :: readable more
  | _ => []

/-- The lines behind the first one that is no text, if there is such a line. -/
def behindFault? : List PhysicalLine → Option (List PhysicalLine)
  | [] => none
  | .undecodable :: more => some more
  | .text _ _ :: more => behindFault? more

/-- What is left when `t` is left of the first line. -/
def withRest (t : Text) (more : List PhysicalLine) : List PhysicalLine :=
  match t with
  | [] => more
  | c :: rest => .text c rest :: more

/-- The lines without their first characters.  A line is gone with its last one. -/
def dropChars : Nat → List PhysicalLine → List PhysicalLine
  | n + 1, .text _ rest :: more => dropChars n (withRest rest more)
  | _, lines => lines

/-- How many of the units can be read. -/
def available : CountUnit → List PhysicalLine → Nat
  | .lines, lines => (readable lines).length
  | .characters, lines => (readable lines).flatten.length

/-- The text of the first `n` units. -/
def front (n : Nat) : CountUnit → List PhysicalLine → Text
  | .lines, lines => ((readable lines).take n).flatten
  | .characters, lines => (readable lines).flatten.take n

/-- What is left behind the first `n` units. -/
def behind (n : Nat) : CountUnit → List PhysicalLine → List PhysicalLine
  | .lines, lines => lines.drop n
  | .characters, lines => dropChars n lines

end PhysicalLine

structure Remainder where
  lines : List PhysicalLine
  /-- The line laid before the input. -/
  injected : Option Text
  deriving DecidableEq, Repr

namespace Remainder

open PhysicalLine

def readLine : Remainder → Except ReadError (Option Text) × Remainder
  | ⟨[], injected⟩ => (.ok none, ⟨[], injected⟩)
  | ⟨.undecodable :: more, injected⟩ => (.error .invalidUtf8, ⟨more, injected⟩)
  | ⟨.text c rest :: more, injected⟩ => (.ok (some (c :: rest)), ⟨more, injected⟩)

def nextLine (r : Remainder) : Except ReadError (Option Text) × Remainder :=
  match r.injected with
  | some line => (.ok (some line), ⟨r.lines, none⟩)
  | none => r.readLine

/-- A read that found too little: a line that is no text comes before the end. -/
def fail (failure : ReadFailure) (r : Remainder) : Except ReadFailure Text × Remainder :=
  match behindFault? r.lines with
  | some more => (.error (.unreadable .invalidUtf8), ⟨more, r.injected⟩)
  | none => (.error failure, ⟨[], r.injected⟩)

/-- The next `n` lines or characters, joined. -/
def take (unit : CountUnit) (n : Nat) (r : Remainder) : Except ReadFailure Text × Remainder :=
  if n ≤ available unit r.lines then
    (.ok (front n unit r.lines), ⟨behind n unit r.lines, r.injected⟩)
  else r.fail (.exhausted unit n (available unit r.lines))

def inject (line : Text) (r : Remainder) : Remainder := ⟨r.lines, some line⟩

theorem take_eq_ok_iff {unit : CountUnit} {n : Nat} {r rest : Remainder} {t : Text} :
    r.take unit n = (.ok t, rest) ↔ n ≤ available unit r.lines ∧ t = front n unit r.lines ∧
      rest = ⟨behind n unit r.lines, r.injected⟩ := by
  unfold take
  by_cases hn : n ≤ available unit r.lines
  · rw [if_pos hn]
    simp only [Prod.mk.injEq, Except.ok.injEq, hn, true_and, eq_comm]
  · rw [if_neg hn]
    unfold fail
    cases behindFault? r.lines <;> simp [hn]

/-- Where all there is is text and does not do, all of it is gone. -/
theorem take_eq_exhausted_of_lt {unit : CountUnit} {n : Nat} {r : Remainder}
    (hr : behindFault? r.lines = none) (h : available unit r.lines < n) :
    r.take unit n = (.error (.exhausted unit n (available unit r.lines)), ⟨[], r.injected⟩) := by
  rw [take, if_neg (Nat.not_le_of_lt h), fail, hr]

end Remainder

/-! ### What is left of a line and more -/

namespace PhysicalLine

theorem behindFault?_eq_none_iff {lines : List PhysicalLine} :
    behindFault? lines = none ↔ .undecodable ∉ lines := by
  induction lines with
  | nil => simp [behindFault?]
  | cons line more ih => cases line <;> simp [behindFault?, ih]

theorem undecodable_mem_withRest {t : Text} {more : List PhysicalLine} :
    .undecodable ∈ withRest t more ↔ .undecodable ∈ more := by
  cases t <;> simp [withRest]

theorem flatten_readable_withRest (t : Text) (more : List PhysicalLine) :
    (readable (withRest t more)).flatten = t ++ (readable more).flatten := by
  cases t <;> rfl

theorem dropChars_zero (lines : List PhysicalLine) : dropChars 0 lines = lines := by
  cases lines <;> rfl

theorem dropChars_withRest {n : Nat} {t : Text} (h : n ≤ t.length) (more : List PhysicalLine) :
    dropChars n (withRest t more) = withRest (t.drop n) more := by
  induction n generalizing t with
  | zero => rw [dropChars_zero, List.drop_zero]
  | succ n ih =>
    cases t with
    | nil => simp at h
    | cons c rest => exact ih (Nat.le_of_succ_le_succ h)

theorem dropChars_withRest_of_le {n : Nat} {t : Text} (h : t.length ≤ n)
    (more : List PhysicalLine) : dropChars n (withRest t more) = dropChars (n - t.length) more := by
  induction n generalizing t with
  | zero =>
    obtain rfl : t = [] := List.length_eq_zero_iff.1 (Nat.le_zero.1 h)
    rfl
  | succ n ih =>
    cases t with
    | nil => rfl
    | cons c rest =>
      rw [List.length_cons, Nat.add_sub_add_right]
      exact ih (Nat.le_of_succ_le_succ h)

end PhysicalLine
end CountedConfig
