/-
A line that cannot be read spoils the whole reading.

Whatever a reading asks for, lines or characters, it ends well or runs out of input
only after it has gone through every line.  A line that is no text therefore comes
up, however far behind the end of a counted value it stands, and its error is the
error of the reading (`cause?_run`).  An input fails in this way exactly when it is
no text as a whole (`parse_eq_unreadable_iff`).
-/
import CountedConfig.Proofs.Lines
import CountedConfig.Proofs.Relocation

namespace CountedConfig

/-- Why a line could not be read, if that is what went wrong. -/
def ReadFailure.cause? : ReadFailure → Option ReadError
  | .exhausted .. => none
  | .unreadable cause => some cause

/-- Why the input could not be read, if that is what went wrong. -/
def ParseError.cause? : ParseError → Option ReadError
  | .truncated .. => none
  | .unreadable _ cause => some cause

/-- Why the reading could not go on, if a line could not be read. -/
def Ending.cause? : Ending → Option ReadError
  | .complete => none
  | .unreadable cause => some cause
  | .interrupted _ _ error => error.cause?

/-- What will go wrong ahead: one of the lines is no text. -/
def Input.fault? (i : Input) : Option ReadError :=
  if PhysicalLine.undecodable ∈ i.unread then some .invalidUtf8 else none

/-- A result of a read that does not lose sight of what will go wrong: a success leaves
it ahead, and a failure tells of it. -/
def Input.Truthful {ε α : Type} (cause? : ε → Option ReadError) (i : Input) :
    Except ε α × Input → Prop
  | (.ok _, rest) => rest.fault? = i.fault?
  | (.error e, _) => cause? e = i.fault?

/-- The same of a step of the reading. -/
def Step.Truthful (i : Input) : Step → Prop
  | .ended ending _ => ending.cause? = i.fault?
  | .turned _ rest => rest.fault? = i.fault?

namespace Input

/-! ### Reads -/

theorem truthful_readLine (i : Input) : Truthful some i i.readLine := by
  obtain ⟨origin, unread, pending, injected, number⟩ := i
  by_cases hp : pending = []
  · cases unread with
    | nil => simp [readLine, hp, Truthful, fault?]
    | cons line more => cases line <;> simp [readLine, hp, Truthful, fault?]
  · simp [readLine, hp, Truthful, fault?]

theorem truthful_nextLine (i : Input) : Truthful some i i.nextLine := by
  unfold nextLine
  split
  · rfl
  · exact truthful_readLine i

theorem truthful_prepend {i rest : Input} (t : Text) {r : Except ReadFailure Text × Input}
    (hrest : rest.fault? = i.fault?) (h : Truthful ReadFailure.cause? rest r) :
    Truthful ReadFailure.cause? i (prepend t r) := by
  rcases r with ⟨e | u, next⟩
  · exact h.trans hrest
  · exact h.trans hrest

/-- Where the input ends nothing has gone wrong. -/
theorem fault?_eq_none_of_readLine {i rest : Input} (h : i.readLine = (.ok none, rest)) :
    i.fault? = none := by
  have hu := (readLine_eq_none h).1
  simp [fault?, hu]

theorem truthful_takeLines (requested missing : Nat) (i : Input) :
    Truthful ReadFailure.cause? i (takeLines requested missing i) := by
  induction missing generalizing i with
  | zero => rfl
  | succ missing ih =>
    have hr := truthful_readLine i
    unfold takeLines
    split
    · rename_i line rest h
      rw [h] at hr
      exact truthful_prepend line hr (ih rest)
    · rename_i rest h
      exact (fault?_eq_none_of_readLine h).symm
    · rename_i e rest h
      rw [h] at hr
      exact hr

theorem truthful_takeChars (requested missing : Nat) (i : Input) :
    Truthful ReadFailure.cause? i (takeChars requested missing i) := by
  fun_induction takeChars requested missing i with
  | case1 => rfl
  | case2 missing i _ line rest h =>
    have hr := truthful_readLine i
    rw [h] at hr
    exact hr
  | case3 missing i _ line rest h _ ih =>
    have hr := truthful_readLine i
    rw [h] at hr
    exact truthful_prepend line hr ih
  | case4 missing i _ rest h => exact (fault?_eq_none_of_readLine h).symm
  | case5 missing i _ e rest h =>
    have hr := truthful_readLine i
    rw [h] at hr
    exact hr

theorem truthful_continued {i : Input} (key fragment : Text) {r : Except ReadFailure Text × Input}
    (h : Truthful ReadFailure.cause? i r) :
    Truthful ParseError.cause? i (continued key fragment i r) := by
  rcases r with ⟨(_ | _) | u, next⟩ <;> exact h

theorem truthful_complete (unit : CountUnit) (key : Text) (count : Nat) (fragment : Text)
    (i : Input) : Truthful ParseError.cause? i (complete unit key count fragment i) := by
  cases unit with
  | lines =>
    simp only [complete, completeLines]
    split
    · exact truthful_continued key fragment (truthful_takeLines _ _ i)
    · rfl
  | characters =>
    simp only [complete, completeCharacters]
    split
    · exact truthful_continued key fragment (truthful_takeChars _ _ i)
    · split <;> rfl

/-! ### Readings -/

theorem truthful_turn (line : Text) (injected : Bool) (i : Input) :
    (turn line injected i).Truthful i := by
  unfold turn
  split
  · rename_i unit key count fragment _
    have hc := truthful_complete unit key count fragment i
    split
    · rename_i c rest h
      rw [h] at hc
      have hb : (rest.handBack c.leftover).fault? = rest.fault? := by cases c.leftover <;> rfl
      exact hb.trans hc
    · rename_i e rest h
      rw [h] at hc
      exact hc
  all_goals rfl

theorem truthful_step (i : Input) : i.step.Truthful i := by
  have hl := truthful_nextLine i
  unfold step
  split
  · rename_i line rest h
    rw [h] at hl
    have hrest : rest.fault? = i.fault? := hl
    have ht := truthful_turn line i.injected.isSome rest
    cases hs : turn line i.injected.isSome rest <;> rw [hs] at ht <;> exact ht.trans hrest
  · rename_i rest h
    rw [h] at hl
    have hrest : rest.fault? = i.fault? := hl
    unfold nextLine at h
    split at h
    · simp at h
    · exact (fault?_eq_none_of_readLine h).symm
  · rename_i e rest h
    rw [h] at hl
    exact hl

/-- A reading fails for a line that is no text exactly when there is one ahead. -/
theorem cause?_run (i : Input) : i.run.ending.cause? = i.fault? := by
  induction i using run.induct with
  | case1 i ending rest h =>
    have hs := truthful_step i
    rw [h] at hs
    rw [run_eq, h]
    exact hs
  | case2 i t next h ih =>
    have hs := truthful_step i
    rw [h] at hs
    rw [run_eq, h]
    exact ih.trans hs

end Input

theorem Run.cause?_error? (r : Run) : r.error?.bind ParseError.cause? = r.ending.cause? := by
  obtain ⟨turns, ending, rest⟩ := r
  cases ending <;> rfl

/-- An input is unreadable exactly when it is no text, and its error tells of itself. -/
theorem parse_eq_unreadable_iff {name : Text} {b : Bytes} {origin : Text} {cause : ReadError} :
    parse name b = .error (.unreadable origin cause) ↔
      Text.decode? b = none ∧ origin = name ∧ cause = .invalidUtf8 := by
  have hcause := Run.cause?_error? (Input.ofBytes name b).run
  have hname := Input.rename_error?_run (Input.ofBytes name b)
  rw [Input.cause?_run] at hcause
  have hfault : (Input.ofBytes name b).fault? =
      if Text.decode? b = none then some .invalidUtf8 else none := by
    simp only [Input.fault?, Input.ofBytes, PhysicalLine.undecodable_mem_ofInput]
  rw [hfault] at hcause
  unfold parse Run.result
  generalize (Input.ofBytes name b).run.error? = failure at hcause hname ⊢
  rcases failure with _ | (_ | ⟨o, c⟩)
  · have hd : Text.decode? b ≠ none := fun hd => by simp [hd] at hcause
    simp [hd]
  · have hd : Text.decode? b ≠ none := fun hd => by simp [hd, ParseError.cause?] at hcause
    simp [hd]
  · have ho : o = name := by
      simp only [Option.map_some, ParseError.rename, Option.some.injEq,
        ParseError.unreadable.injEq] at hname
      exact hname.1.symm
    by_cases hd : Text.decode? b = none
    · have hc : c = .invalidUtf8 := by simpa [hd, ParseError.cause?] using hcause
      simp [hd, ho, hc, eq_comm]
    · simp [hd, ParseError.cause?] at hcause

/-- A stream is unreadable exactly when its bytes as a whole are no text.  When they are
one, the stream is read as that text is. -/
theorem parseStream_outcome (b : Bytes) :
    (∀ origin cause, parseStream b = .error (.unreadable origin cause) ↔
      Text.decode? b = none ∧ origin = "<reader>".toList ∧ cause = .invalidUtf8) ∧
    ∀ t, Text.decode? b = some t → parseStream b = parseText t := by
  refine ⟨fun origin cause => parse_eq_unreadable_iff, fun t ht => ?_⟩
  have hb : parseText t = parse "<string>".toList b := by
    rw [Text.decode?_eq_some_iff.1 ht]
    rfl
  rw [hb, parseStream, parse_rename "<reader>".toList "<string>".toList]
  cases he : parse "<string>".toList b with
  | ok d => rfl
  | error e =>
    cases e with
    | truncated => rfl
    | unreadable origin cause =>
      have hn := (parse_eq_unreadable_iff.1 he).1
      rw [ht] at hn
      exact absurd hn (by simp)

/-- Nine lines are asked for where two follow, and the second of them is no text. -/
theorem parseStream_outcome_behind_count :
    parseStream (Text.encode "k:9L=a\nb\n".toList ++ [0xff, 10]) =
        .error (.unreadable "<reader>".toList .invalidUtf8) ∧
      parseStream (Text.encode "k:9L=a\nb\n".toList) = parseText "k:9L=a\nb\n".toList :=
  ⟨((parseStream_outcome _).1 _ _).2 ⟨by decide +kernel, rfl, rfl⟩,
    (parseStream_outcome _).2 _ (Text.decode?_encode _)⟩

end CountedConfig
