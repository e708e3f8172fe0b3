/-
A reading whose numbers are held in 64 bits.

Here each sum and each difference of a reading is made with numbers of 64 bits, and the reading
is given up where one does not fit.  What was read of a request is counted up to what was asked
for and never past it, and what was asked for is less than a count.  The number of a line is all
that grows with the input.  While 64 bits hold it, nothing is given up, and the turn is the one
that is made with numbers of any size (`Input.step?_eq`).
-/
import CountedConfig.Proofs.Kept
import CountedConfig.Proofs.Line.Digits
import CountedConfig.Proofs.Refinement

namespace CountedConfig

/-! ### Sums and differences -/

namespace Word

/-- The sum of two numbers, if 64 bits hold it. -/
def add? (a b : Nat) : Option Nat := if a + b < UInt64.size then some (a + b) else none

/-- The difference of two numbers, if it is not below zero. -/
def sub? (a b : Nat) : Option Nat := if b ≤ a then some (a - b) else none

variable {a b c : Nat}

theorem add?_of_lt (h : a + b < UInt64.size) : add? a b = some (a + b) := if_pos h

theorem sub?_of_le (h : b ≤ a) : sub? a b = some (a - b) := if_pos h

theorem eq_add_of_add? (h : add? a b = some c) : c = a + b := by
  unfold add? at h
  split at h
  · exact (Option.some.inj h).symm
  · simp at h

theorem eq_sub_of_sub? (h : sub? a b = some c) : c = a - b := by
  unfold sub? at h
  split at h
  · exact (Option.some.inj h).symm
  · simp at h

end Word

namespace Input

/-! ### Reads -/

def readLine? (i : Input) : Option (Except ReadError (Option Text) × Input) :=
  if i.pending = [] then
    match i.unread with
    | [] => some (.ok none, i)
    | .undecodable :: more => some (.error .invalidUtf8, { i with unread := more })
    | .text c rest :: more =>
      (Word.add? i.lineNumber 1).map fun number =>
        (.ok (some (c :: rest)), { i with unread := more, lineNumber := number })
  else some (.ok (some i.pending), { i with pending := [] })

def nextLine? (i : Input) : Option (Except ReadError (Option Text) × Input) :=
  match i.injected with
  | some line => some (.ok (some line), { i with injected := none })
  | none => i.readLine?

theorem readLine_of_readLine? {i : Input} {r : Except ReadError (Option Text) × Input}
    (h : i.readLine? = some r) : i.readLine = r := by
  obtain ⟨origin, unread, pending, injected, number⟩ := i
  by_cases hp : pending = []
  · subst hp
    cases unread with
    | nil => exact Option.some.inj h
    | cons line more =>
      cases line with
      | undecodable => exact Option.some.inj h
      | text c rest =>
        obtain ⟨next, hnext, rfl⟩ := Option.map_eq_some_iff.1 h
        rw [Word.eq_add_of_add? hnext]
        rfl
  · simp only [readLine?, hp, if_false, Option.some.injEq] at h
    simp only [readLine, hp, if_false, h]

/-- Takes lines until as many as were asked for have been taken. -/
def takeLines? (requested taken : Nat) (i : Input) : Option (Except ReadFailure Text × Input) :=
  if taken < requested then
    match i.readLine? with
    | some (.ok (some line), rest) =>
      match _h : Word.add? taken 1 with
      | some more => (takeLines? requested more rest).map (prepend line)
      | none => none
    | some (.ok none, rest) => some (.error (.exhausted .lines requested taken), rest)
    | some (.error e, rest) => some (.error (.unreadable e), rest)
    | none => none
  else some (.ok [], i)
termination_by requested - taken
decreasing_by
  have := Word.eq_add_of_add? _h
  omega

/-- Takes characters, of each line those that are wanted still, until as many as were asked for
have been taken. -/
def takeChars? (requested taken : Nat) (i : Input) : Option (Except ReadFailure Text × Input) :=
  if taken < requested then
    match _hr : i.readLine? with
    | some (.ok (some line), rest) =>
      match _hw : Word.sub? requested taken with
      | some want =>
        match _hm : Word.add? taken (line.take want).length with
        | some more =>
          (takeChars? requested more { rest with pending := line.drop want }).map
            (prepend (line.take want))
        | none => none
      | none => none
    | some (.ok none, rest) => some (.error (.exhausted .characters requested taken), rest)
    | some (.error e, rest) => some (.error (.unreadable e), rest)
    | none => none
  else some (.ok [], i)
termination_by requested - taken
decreasing_by
  have hpos := (remaining_readLine (readLine_of_readLine? _hr)).2
  have hwant := Word.eq_sub_of_sub? _hw
  have hmore := Word.eq_add_of_add? _hm
  rw [List.length_take] at hmore
  omega

/-! ### Turns -/

def completeLines? (key : Text) (count : Nat) (fragment : Text) (i : Input) :
    Option (Except ParseError Completion × Input) :=
  if 1 < count then do
    let requested ← Word.sub? count 1
    let r ← takeLines? requested 0 i
    return continued key fragment i r
  else some (.ok ⟨[], Text.dropLineBreaks fragment, none⟩, i)

def completeCharacters? (key : Text) (count : Nat) (fragment : Text) (i : Input) :
    Option (Except ParseError Completion × Input) :=
  if fragment.length < count then do
    let behind ← Word.sub? count fragment.length
    let requested ← Word.sub? behind 1
    let r ← takeChars? requested 0 i
    return continued key fragment i r
  else if fragment.length = count then some (.ok ⟨[], Text.dropLineBreaks fragment, none⟩, i)
  else some (.ok ⟨[], fragment.take count, some (fragment.drop count)⟩, i)

def complete? : CountUnit → Text → Nat → Text → Input → Option (Except ParseError Completion × Input)
  | .lines => completeLines?
  | .characters => completeCharacters?

def turn? (line : Text) (injected : Bool) (i : Input) : Option Step :=
  match LineKind.ofLine line with
  | .counted unit key count fragment =>
    match i.complete? unit key count fragment with
    | some (.ok c, rest) =>
      some (.turned ⟨line, injected, i.lineNumber, c.taken, some (key, c.value), c.leftover⟩
        (rest.handBack c.leftover))
    | some (.error e, rest) => some (.ended (.interrupted line i.lineNumber e) rest)
    | none => none
  | .plain _ key value =>
    some (.turned ⟨line, injected, i.lineNumber, [], some (key, value), none⟩ i)
  | .comment | .blank | .unrecognized =>
    some (.turned ⟨line, injected, i.lineNumber, [], none, none⟩ i)

def step? (i : Input) : Option Step :=
  match i.nextLine? with
  | some (.ok (some line), rest) => rest.turn? line i.injected.isSome
  | some (.ok none, rest) => some (.ended .complete rest)
  | some (.error e, rest) => some (.ended (.unreadable e) rest)
  | none => none

/-! ### Nothing is given up -/

section Fits

variable {i rest : Input} {line : Text} {requested taken count : Nat}

theorem readLine?_eq (hi : i.lastNumber < UInt64.size) : i.readLine? = some i.readLine := by
  obtain ⟨origin, unread, pending, injected, number⟩ := i
  by_cases hp : pending = []
  · cases unread with
    | nil => simp [readLine?, readLine, hp]
    | cons line more =>
      cases line with
      | undecodable => simp [readLine?, readLine, hp]
      | text c t =>
        have hnumber : number + 1 < UInt64.size := by
          simp only [lastNumber, List.length_cons] at hi
          omega
        simp only [readLine?, readLine, hp, if_true, Word.add?_of_lt hnumber, Option.map_some]
  · simp [readLine?, readLine, hp]

theorem nextLine?_eq (hi : i.lastNumber < UInt64.size) : i.nextLine? = some i.nextLine := by
  unfold nextLine? nextLine
  cases i.injected with
  | some line => rfl
  | none => exact readLine?_eq hi

theorem lastNumber_readLine (hi : i.lastNumber < UInt64.size) (h : i.readLine = (.ok (some line), rest)) :
    rest.lastNumber < UInt64.size := by
  have hr := (kept_lastNumber_lt UInt64.size).readLine hi
  rwa [h] at hr

theorem takeLines?_of_line (hn : requested < UInt64.size) (ht : taken < requested)
    (h : i.readLine? = some (.ok (some line), rest)) :
    takeLines? requested taken i = (takeLines? requested (taken + 1) rest).map (prepend line) := by
  have hadd : Word.add? taken 1 = some (taken + 1) := Word.add?_of_lt (by omega)
  rw [takeLines?, if_pos ht, h]
  dsimp only
  split
  · rename_i more hmore
    rw [Word.eq_add_of_add? hmore]
  · rename_i hnone
    rw [hadd] at hnone
    simp at hnone

/-- Of a line that is read no more is taken than is wanted still. -/
theorem takeChars?_of_line (hn : requested < UInt64.size) (ht : taken < requested)
    (h : i.readLine? = some (.ok (some line), rest)) :
    takeChars? requested taken i =
      (takeChars? requested (taken + (line.take (requested - taken)).length)
        { rest with pending := line.drop (requested - taken) }).map
          (prepend (line.take (requested - taken))) := by
  have hsub : Word.sub? requested taken = some (requested - taken) := Word.sub?_of_le (by omega)
  have hadd : Word.add? taken (line.take (requested - taken)).length =
      some (taken + (line.take (requested - taken)).length) := by
    refine Word.add?_of_lt ?_
    rw [List.length_take]
    omega
  rw [takeChars?, if_pos ht]
  split <;> rename_i hr <;> rw [h] at hr <;> cases hr
  split
  · rename_i want hwant
    rw [hsub] at hwant
    cases hwant
    split
    · rename_i more hmore
      rw [Word.eq_add_of_add? hmore]
    · rename_i hnone
      rw [hadd] at hnone
      simp at hnone
  · rename_i hnone
    rw [hsub] at hnone
    simp at hnone

theorem takeLines?_eq (hn : requested < UInt64.size) (ht : taken ≤ requested)
    (hi : i.lastNumber < UInt64.size) :
    takeLines? requested taken i = some (takeLines requested (requested - taken) i) := by
  induction hm : requested - taken generalizing taken i with
  | zero => rw [takeLines?, if_neg (by omega), takeLines]
  | succ missing ih =>
    have hlt : taken < requested := by omega
    have hread := readLine?_eq hi
    rw [takeLines]
    rcases hr : i.readLine with ⟨e | _ | line, rest⟩ <;> rw [hr] at hread
    · rw [takeLines?, if_pos hlt, hread]
    · have hfound : requested - (missing + 1) = taken := by omega
      rw [takeLines?, if_pos hlt, hread, hfound]
    · rw [takeLines?_of_line hn hlt hread, ih hlt (lastNumber_readLine hi hr) (by omega)]
      rfl

theorem takeChars?_self (n : Nat) (i : Input) : takeChars? n n i = some (.ok [], i) := by
  rw [takeChars?, if_neg (Nat.lt_irrefl n)]

theorem takeChars?_eq (hn : requested < UInt64.size) (ht : taken ≤ requested)
    (hi : i.lastNumber < UInt64.size) :
    takeChars? requested taken i = some (takeChars requested (requested - taken) i) := by
  generalize hm : requested - taken = missing
  fun_induction takeChars requested missing i generalizing taken with
  | case1 i =>
    obtain rfl : taken = requested := by omega
    exact takeChars?_self taken i
  | case2 missing i h0 line rest hr hl =>
    have hread := readLine?_eq hi
    rw [hr] at hread
    have hall : taken + missing = requested := by omega
    -- The loop comes round once more and finds that nothing is missing.
    rw [takeChars?_of_line hn (by omega) hread, hm, List.length_take_of_le hl, hall, takeChars?_self,
      Option.map_some, prepend, List.append_nil]
  | case3 missing i h0 line rest hr hl ih =>
    have hread := readLine?_eq hi
    rw [hr] at hread
    have hlt : line.length < missing := Nat.lt_of_not_le hl
    -- All of the line is taken, so that nothing of it is pending.
    have hrest : { rest with pending := [] } = rest := by rw [← pending_readLine hr]
    rw [takeChars?_of_line hn (by omega) hread, hm, List.take_of_length_le (Nat.le_of_lt hlt),
      List.drop_of_length_le (Nat.le_of_lt hlt), hrest,
      ih (by omega) (lastNumber_readLine hi hr) (by omega), Option.map_some]
  | case4 missing i h0 rest hr =>
    have hread := readLine?_eq hi
    rw [hr] at hread
    have hfound : requested - missing = taken := by omega
    rw [takeChars?, if_pos (by omega), hfound]
    split <;> rename_i h <;> rw [hread] at h <;> cases h
    rfl
  | case5 missing i h0 e rest hr =>
    have hread := readLine?_eq hi
    rw [hr] at hread
    rw [takeChars?, if_pos (by omega)]
    split <;> rename_i h <;> rw [hread] at h <;> cases h
    rfl

theorem complete?_eq (unit : CountUnit) (key fragment : Text) (hn : count < UInt64.size)
    (hi : i.lastNumber < UInt64.size) :
    i.complete? unit key count fragment = some (i.complete unit key count fragment) := by
  cases unit with
  | lines =>
    show i.completeLines? key count fragment = some (i.completeLines key count fragment)
    by_cases hc : 1 < count
    · have hread := takeLines?_eq (by omega : count - 1 < UInt64.size) (Nat.zero_le _) hi
      rw [completeLines_of_gt hc, completeLines?, if_pos hc, Word.sub?_of_le (Nat.le_of_lt hc)]
      simp only [Option.bind_eq_bind, Option.bind_some, hread]
      rfl
    · rw [completeLines_of_le (Nat.le_of_not_lt hc), completeLines?, if_neg hc]
  | characters =>
    show i.completeCharacters? key count fragment = some (i.completeCharacters key count fragment)
    by_cases hc : fragment.length < count
    · have hone : 1 ≤ count - fragment.length := by omega
      have hread :=
        takeChars?_eq (by omega : count - fragment.length - 1 < UInt64.size) (Nat.zero_le _) hi
      rw [completeCharacters_of_gt hc, completeCharacters?, if_pos hc,
        Word.sub?_of_le (Nat.le_of_lt hc)]
      simp only [Option.bind_eq_bind, Option.bind_some, Word.sub?_of_le hone, hread]
      rfl
    · rw [completeCharacters, completeCharacters?, if_neg hc, if_neg hc]
      split <;> rfl

theorem turn?_eq (line : Text) (injected : Bool) (hi : i.lastNumber < UInt64.size) :
    i.turn? line injected = some (i.turn line injected) := by
  unfold turn? turn
  cases hk : LineKind.ofLine line with
  | counted unit key count fragment =>
    dsimp only
    rw [complete?_eq unit key fragment (LineKind.count_lt_size hk) hi]
    rcases i.complete unit key count fragment with ⟨e | c, rest⟩ <;> rfl
  | _ => rfl

theorem step?_eq (hi : i.lastNumber < UInt64.size) : i.step? = some i.step := by
  have hn := (kept_lastNumber_lt UInt64.size).nextLine hi
  unfold step? step
  rw [nextLine?_eq hi]
  rcases h : i.nextLine with ⟨e | _ | line, rest⟩
  · rfl
  · rfl
  · rw [h] at hn
    exact turn?_eq line _ hn

end Fits

end Input
end CountedConfig
