/-
Reading an input from its start to its end.

Reading goes in turns.  A turn takes one logical line, completes the value if the
line asks for more of the input, and stores the entry.  When the value ended inside
the line, the tail of the line is laid before the input and is the line of the next
turn.  Everything there is to know of a reading, the document, the error and the
log, is a view of its history, `Run`.
-/
import CountedConfig.Document
import CountedConfig.Input.Completion
import CountedConfig.Line.Length

namespace CountedConfig

structure Turn where
  line : Text
  /-- Whether the line is the tail that the turn before left. -/
  injected : Bool
  /-- How many physical lines had been brought in when the line was handed out. -/
  number : Nat
  /-- What completing the value took from the input. -/
  taken : Text
  /-- The key and the value that were stored. -/
  entry : Option (Text × Text)
  /-- The tail of the line, when the value ended inside it. -/
  leftover : Option Text
  deriving DecidableEq, Repr

inductive Ending where
  | complete
  /-- The next line could not be read. -/
  | unreadable (cause : ReadError)
  /-- A value could not be completed. -/
  | interrupted (line : Text) (number : Nat) (error : ParseError)
  deriving DecidableEq, Repr

/-- The history of a reading, and the position it ended at. -/
structure Run where
  turns : List Turn
  ending : Ending
  rest : Input
  deriving DecidableEq, Repr

inductive Step where
  | ended (ending : Ending) (rest : Input)
  | turned (turn : Turn) (rest : Input)
  deriving DecidableEq, Repr

namespace Input

/-- The position with the tail that a value left laid before it. -/
def handBack (leftover : Option Text) (i : Input) : Input :=
  match leftover with
  | some tail => i.inject tail
  | none => i

/-- The turn of a line that has been handed out, the position being behind it. -/
def turn (line : Text) (injected : Bool) (i : Input) : Step :=
  match LineKind.ofLine line with
  | .counted unit key count fragment =>
    match i.complete unit key count fragment with
    | (.ok c, rest) =>
      .turned ⟨line, injected, i.lineNumber, c.taken, some (key, c.value), c.leftover⟩
        (rest.handBack c.leftover)
    | (.error e, rest) => .ended (.interrupted line i.lineNumber e) rest
  | .plain _ key value =>
    .turned ⟨line, injected, i.lineNumber, [], some (key, value), none⟩ i
  | .comment | .blank | .unrecognized =>
    .turned ⟨line, injected, i.lineNumber, [], none, none⟩ i

def step (i : Input) : Step :=
  match i.nextLine with
  | (.ok (some line), rest) => rest.turn line i.injected.isSome
  | (.ok none, rest) => .ended .complete rest
  | (.error e, rest) => .ended (.unreadable e) rest

/-- A line that was handed out no longer weighs, and leaves nothing injected. -/
theorem weight_nextLine {i rest : Input} {line : Text} (h : i.nextLine = (.ok (some line), rest)) :
    rest.injected = none ∧ rest.remaining + Nat.max line.length 1 ≤ i.weight := by
  unfold nextLine at h
  split at h
  · rename_i t ht
    simp only [Prod.mk.injEq, Except.ok.injEq, Option.some.injEq] at h
    obtain ⟨rfl, rfl⟩ := h
    refine ⟨rfl, ?_⟩
    simp only [weight, ht, remaining]
    have : Nat.max t.length 1 ≤ t.length + 1 := Nat.max_le.2 ⟨by omega, by omega⟩
    omega
  · rename_i hn
    have hr := remaining_readLine h
    have hi := injected_readLine i
    rw [h] at hi
    have : Nat.max line.length 1 = line.length := Nat.max_eq_left hr.2
    refine ⟨hi.trans hn, ?_⟩
    simp only [weight, hn]
    omega

/-- Each turn takes weight away: a tail is shorter than the line it was cut from. -/
theorem weight_step {i rest : Input} {t : Turn} (h : i.step = .turned t rest) :
    rest.weight < i.weight := by
  unfold step at h
  split at h
  · rename_i line next hl
    obtain ⟨hn, hw⟩ := weight_nextLine hl
    have h₁ : 1 ≤ Nat.max line.length 1 := Nat.le_max_right _ _
    have h₂ : line.length ≤ Nat.max line.length 1 := Nat.le_max_left _ _
    have plain : next.weight < i.weight := by simp only [weight, hn] at hw ⊢; omega
    unfold turn at h
    split at h
    · rename_i unit key count fragment hk
      split at h
      · rename_i c after hc
        have hrem := remaining_complete_le unit key count fragment next
        have hinj := injected_complete unit key count fragment next
        have hlen := LineKind.length_fragment hk
        rw [hc] at hrem hinj
        simp only [Step.turned.injEq] at h
        rw [← h.2]
        unfold handBack
        split
        · rename_i tail ht
          have := length_leftover_le hc ht
          simp only [weight, inject, remaining] at hw hrem ⊢
          omega
        · have ha : after.injected = none := hinj.trans hn
          simp only [weight, ha, remaining] at hw hrem ⊢
          omega
      · simp at h
    · simp only [Step.turned.injEq] at h
      rw [← h.2]; exact plain
    · simp only [Step.turned.injEq] at h
      rw [← h.2]; exact plain
    · simp only [Step.turned.injEq] at h
      rw [← h.2]; exact plain
    · simp only [Step.turned.injEq] at h
      rw [← h.2]; exact plain
  · simp at h
  · simp at h

/-- The reading from this position to the end. -/
def run (i : Input) : Run :=
  match _h : i.step with
  | .ended ending rest => ⟨[], ending, rest⟩
  | .turned t next =>
    let later := next.run
    { later with turns := t :: later.turns }
termination_by i.weight
decreasing_by exact weight_step _h

end Input

/-- The reading that goes on behind a step. -/
def Step.run : Step → Run
  | .ended ending rest => ⟨[], ending, rest⟩
  | .turned t next => { next.run with turns := t :: next.run.turns }

theorem Input.run_eq (i : Input) : i.run = i.step.run := by
  rw [run]
  split
  · rename_i h; rw [h]; rfl
  · rename_i h; rw [h]; rfl

namespace Run

def entries (r : Run) : List (Text × Text) := r.turns.filterMap Turn.entry

def error? (r : Run) : Option ParseError :=
  match r.ending with
  | .complete => none
  | .unreadable cause => some (.unreadable r.rest.origin cause)
  | .interrupted _ _ error => some error

/-- The document that was read.  A reading that failed gives nothing. -/
def result (r : Run) : Except ParseError Document :=
  match r.error? with
  | none => .ok (Document.ofList r.entries)
  | some e => .error e

end Run

/-- Reads an input as a configuration document. -/
def parse (origin : Text) (input : Bytes) : Except ParseError Document :=
  (Input.ofBytes origin input).run.result

/-- Reads a stream of bytes, which has no name of its own. -/
def parseStream (input : Bytes) : Except ParseError Document := parse "<reader>".toList input

def parseText (t : Text) : Except ParseError Document := parse "<string>".toList (Text.encode t)

end CountedConfig
