/-
What a reading asks of its input.

A reading asks for a line, then for the rest of a value, or it lays the tail of a line before the
input, and so on to the end.  The requests of a turn follow from its line and its tail
(`Turn.requests`).  The answers to them, one after the other, are what the reading is made of
(`Input.afterAll_requests_run`).  Asking in this way takes each character of the input once
(`Input.ahead_eq_of_given`), and a line is laid before the input only where none is laid there and
the position is not inside a line (`Input.free_of_mem_conversation`).
-/
import CountedConfig.Proofs.Budget
import CountedConfig.Proofs.Lines.Newlines
import CountedConfig.Proofs.Shape
import CountedConfig.Proofs.Steps

namespace CountedConfig

/-! ### Requests and answers -/

/-- A request, the position it was made at and the answer to it. -/
structure Exchange where
  position : Input
  request : Request
  answer : Answer

namespace Input

/-- The requests one after the other, each at the position that the one before it left. -/
def exchanges (i : Input) : List Request → List Exchange
  | [] => []
  | q :: more => ⟨i, q, (i.answer q).1⟩ :: (i.answer q).2.exchanges more

/-- The position behind all of the requests. -/
def afterAll (i : Input) (requests : List Request) : Input :=
  requests.foldl (fun j q => (j.answer q).2) i

theorem afterAll_append (i : Input) (requests more : List Request) :
    i.afterAll (requests ++ more) = (i.afterAll requests).afterAll more :=
  List.foldl_append

theorem exchanges_append (i : Input) (requests more : List Request) :
    i.exchanges (requests ++ more) = i.exchanges requests ++ (i.afterAll requests).exchanges more := by
  induction requests generalizing i with
  | nil => rfl
  | cons q requests ih => exact congrArg (_ :: ·) (ih (i.answer q).2)

end Input

namespace Exchange

/-- The request was met. -/
def Given (e : Exchange) : Prop :=
  match e.answer with
  | .line (.error _) => False
  | .text (.error _) => False
  | _ => True

/-- The logical line that was handed out. -/
def line? (e : Exchange) : Option Text :=
  match e.answer with
  | .line (.ok line) => line
  | _ => none

/-- What was taken from the input itself.  A line that had been laid before it was not. -/
def taken (e : Exchange) : Text :=
  match e.answer with
  | .line (.ok (some line)) => if e.position.injected = none then line else []
  | .text (.ok t) => t
  | _ => []

end Exchange

/-! ### Nothing is passed over and nothing is taken twice -/

namespace PhysicalLine

theorem readable_drop {n : Nat} {lines : List PhysicalLine} (h : n ≤ (readable lines).length) :
    readable (lines.drop n) = (readable lines).drop n := by
  induction n generalizing lines with
  | zero => rfl
  | succ n ih =>
    match lines with
    | [] => exact absurd h (Nat.not_succ_le_zero n)
    | .undecodable :: more => exact absurd h (Nat.not_succ_le_zero n)
    | .text c rest :: more => exact ih (Nat.le_of_succ_le_succ h)

/-- What is taken and what is left behind it make up what there was. -/
theorem flatten_readable_behind {unit : CountUnit} {n : Nat} {lines : List PhysicalLine}
    (h : n ≤ available unit lines) :
    (readable lines).flatten = front n unit lines ++ (readable (behind n unit lines)).flatten := by
  cases unit with
  | lines =>
    show (readable lines).flatten =
      ((readable lines).take n).flatten ++ (readable (lines.drop n)).flatten
    rw [readable_drop h, ← List.flatten_append, List.take_append_drop]
  | characters => exact flatten_readable_dropChars h

end PhysicalLine

namespace Input

theorem ahead_readLine {i rest : Input} {line : Text} (h : i.readLine = (.ok (some line), rest)) :
    i.ahead = line ++ rest.ahead := by
  obtain ⟨c, t, rfl, hi, hrest⟩ := remainder_of_readLine h
  rw [← flatten_readable_remainder, ← flatten_readable_remainder, hi, hrest]
  rfl

theorem ahead_next {unit : CountUnit} {n : Nat} {i rest : Input} {t : Text}
    (h : i.next unit n = (.ok t, rest)) : i.ahead = t ++ rest.ahead := by
  have hr := remainder_next unit n i
  rw [h] at hr
  obtain ⟨hn, rfl, hrest⟩ := Remainder.take_eq_ok_iff.1 hr.symm
  rw [← flatten_readable_remainder, ← flatten_readable_remainder rest, hrest]
  exact PhysicalLine.flatten_readable_behind hn

/-- A request that is met takes what stands first, or nothing. -/
theorem ahead_answer {i : Input} {q : Request} (h : (Exchange.mk i q (i.answer q).1).Given) :
    i.ahead = (Exchange.mk i q (i.answer q).1).taken ++ (i.answer q).2.ahead := by
  cases q with
  | inject line => rfl
  | next unit n =>
    rcases hnext : i.next unit n with ⟨failure | t, rest⟩
    · simp only [answer, hnext, Prod.map_apply, Exchange.Given] at h
    · simp only [answer, hnext, Prod.map_apply, Exchange.taken]
      exact ahead_next hnext
  | line =>
    by_cases hi : i.injected = none
    · have hline : i.nextLine = i.readLine := by rw [nextLine, hi]
      rcases hread : i.readLine with ⟨cause | line, rest⟩
      · simp only [answer, hline, hread, Prod.map_apply, Exchange.Given] at h
      · simp only [answer, hline, hread, Prod.map_apply]
        cases line with
        | none =>
          obtain ⟨-, -, rfl⟩ := readLine_eq_none hread
          rfl
        | some line =>
          simp only [Exchange.taken, hi, if_true]
          exact ahead_readLine hread
    · obtain ⟨line, hline⟩ := Option.ne_none_iff_exists'.1 hi
      simp only [answer, nextLine, hline, Prod.map_apply, Exchange.taken]
      rfl

/-- Requests that are all met take the front of what is ahead, in order. -/
theorem ahead_eq_of_given {i : Input} {requests : List Request}
    (h : ∀ e ∈ i.exchanges requests, e.Given) :
    i.ahead = (i.exchanges requests).flatMap Exchange.taken ++ (i.afterAll requests).ahead := by
  induction requests generalizing i with
  | nil => rfl
  | cons q requests ih =>
    have hq := h _ List.mem_cons_self
    have hmore := ih fun e he => h e (List.mem_cons_of_mem _ he)
    rw [ahead_answer hq, hmore, ← List.append_assoc]
    rfl

end Input

/-! ### The requests of a reading -/

/-- What the meaning of a line asks of the input behind it. -/
def LineKind.request? : LineKind → Option Request
  | .counted unit _ count fragment =>
    if unit.goesOn count fragment then some (.next unit (unit.beyond count fragment)) else none
  | _ => none

/-- A line, the rest of its value, and the tail that is handed back. -/
def Turn.requests (t : Turn) : List Request :=
  .line :: ((LineKind.ofLine t.line).request?.toList ++ (t.leftover.map Request.inject).toList)

def Ending.requests : Ending → List Request
  | .complete => [.line]
  | .unreadable _ => [.line]
  | .interrupted line _ _ => .line :: (LineKind.ofLine line).request?.toList

def Run.requests (r : Run) : List Request := r.turns.flatMap Turn.requests ++ r.ending.requests

namespace Input

/-- All that a reading asks, with the answers to it. -/
def conversation (i : Input) : List Exchange := i.exchanges i.run.requests

/-! ### Turns -/

/-- Behind its line a turn asks for nothing, or for the rest of its value, or it lays the tail
of its line before the input. -/
theorem Turned.asks {line : Text} {injected : Bool} {i next : Input} {t : Turn}
    (h : Turned line injected i t next) :
    t.line = line ∧
      (t.requests = [.line] ∧ t.leftover = none ∧ next = i ∨
        (∃ unit n, t.requests = [.line, .next unit n] ∧ i.next unit n = (.ok t.taken, next) ∧
          t.leftover = none) ∨
        ∃ tail, t.requests = [.line, .inject tail] ∧ t.leftover = some tail ∧
          next = i.inject tail) := by
  cases h with
  | counted hkind hc =>
    refine ⟨rfl, ?_⟩
    cases hc with
    | continued hgoes hnext =>
      refine Or.inr (Or.inl ⟨_, _, ?_, hnext, rfl⟩)
      simp [Turn.requests, hkind, LineKind.request?, hgoes]
    | whole hstays _ =>
      refine Or.inl ⟨?_, rfl, rfl⟩
      simp [Turn.requests, hkind, LineKind.request?, hstays]
    | cut hunit hlt =>
      refine Or.inr (Or.inr ⟨_, ?_, rfl, rfl⟩)
      simp [Turn.requests, hkind, LineKind.request?, hunit, CountUnit.goesOn, Nat.le_of_lt hlt]
  | plain hkind =>
    refine ⟨rfl, Or.inl ⟨?_, rfl, rfl⟩⟩
    simp [Turn.requests, hkind, LineKind.request?]
  | idle hkind =>
    refine ⟨rfl, Or.inl ⟨?_, rfl, rfl⟩⟩
    rcases hkind with hkind | hkind | hkind
    · simp [Turn.requests, hkind, LineKind.request?]
    · simp [Turn.requests, hkind, LineKind.request?]
    · simp [Turn.requests, hkind, LineKind.request?]

theorem answer_line {i rest : Input} {line : Option Text} (hl : i.nextLine = (.ok line, rest)) :
    i.answer .line = (.line (.ok line), rest) := by
  rw [answer, hl]
  rfl

theorem answer_next {i rest : Input} {unit : CountUnit} {n : Nat} {result : Except ReadFailure Text}
    (hnext : i.next unit n = (result, rest)) : i.answer (.next unit n) = (.text result, rest) := by
  rw [answer, hnext]
  rfl

theorem answer_inject (tail : Text) (i : Input) :
    i.answer (.inject tail) = (.done, i.inject tail) := rfl

/-- What a turn asks, with the answers, and the position behind it. -/
theorem exchanges_step {i next : Input} {t : Turn} (h : i.step = .turned t next) :
    ∃ rest, i.nextLine = (.ok (some t.line), rest) ∧ i.afterAll t.requests = next ∧
      (i.exchanges t.requests = [⟨i, .line, .line (.ok (some t.line))⟩] ∧ next = rest ∨
        (∃ unit n, i.exchanges t.requests =
            [⟨i, .line, .line (.ok (some t.line))⟩, ⟨rest, .next unit n, .text (.ok t.taken)⟩] ∧
          rest.next unit n = (.ok t.taken, next)) ∨
        ∃ tail, i.exchanges t.requests =
            [⟨i, .line, .line (.ok (some t.line))⟩, ⟨rest, .inject tail, .done⟩] ∧
          next = rest.inject tail) := by
  obtain ⟨line, rest, hl, hturn⟩ := turned_of_step h
  obtain ⟨rfl, hasks⟩ := hturn.asks
  have hline := answer_line hl
  refine ⟨rest, hl, ?_⟩
  rcases hasks with ⟨hq, -, rfl⟩ | ⟨unit, n, hq, hnext, -⟩ | ⟨tail, hq, -, rfl⟩
  · rw [hq]
    refine ⟨?_, Or.inl ⟨?_, rfl⟩⟩
    · simp [afterAll, hline]
    · simp [exchanges, hline]
  · rw [hq]
    have hread := answer_next hnext
    refine ⟨?_, Or.inr (Or.inl ⟨unit, n, ?_, hnext⟩)⟩
    · simp [afterAll, hline, hread]
    · simp [exchanges, hline, hread]
  · rw [hq]
    refine ⟨?_, Or.inr (Or.inr ⟨tail, ?_, rfl⟩)⟩
    · simp [afterAll, hline, answer_inject]
    · simp [exchanges, hline, answer_inject]

theorem given_step {i next : Input} {t : Turn} (h : i.step = .turned t next) :
    ∀ e ∈ i.exchanges t.requests, e.Given := by
  obtain ⟨rest, -, -, ⟨he, -⟩ | ⟨unit, n, he, -⟩ | ⟨tail, he, -⟩⟩ := exchanges_step h
  · rw [he]
    simp [Exchange.Given]
  · rw [he]
    simp [Exchange.Given]
  · rw [he]
    simp [Exchange.Given]

theorem lines_step {i next : Input} {t : Turn} (h : i.step = .turned t next) :
    (i.exchanges t.requests).filterMap Exchange.line? = [t.line] := by
  obtain ⟨rest, -, -, ⟨he, -⟩ | ⟨unit, n, he, -⟩ | ⟨tail, he, -⟩⟩ := exchanges_step h
  · rw [he]
    rfl
  · rw [he]
    rfl
  · rw [he]
    rfl

/-! ### The place where a line is laid -/

/-- No line is laid before a position that is inside a line. -/
def Clear (i : Input) : Prop := i.injected = none ∨ i.pending = []

/-- The place is free, and the position begins a line. -/
structure Free (i : Input) : Prop where
  injected : i.injected = none
  pending : i.pending = []

theorem Clear.nextLine {i rest : Input} {line : Text} (h : i.Clear)
    (hl : i.nextLine = (.ok (some line), rest)) : rest.Free := by
  refine ⟨(weight_nextLine hl).1, ?_⟩
  unfold Input.nextLine at hl
  split at hl
  · rename_i hi
    cases hl
    exact h.resolve_left (by simp [hi])
  · exact pending_readLine hl

/-- A turn lays a line before a free place only, and leaves its position clear. -/
theorem clear_step {i next : Input} {t : Turn} (hi : i.Clear) (h : i.step = .turned t next) :
    next.Clear ∧ ∀ e ∈ i.exchanges t.requests, ∀ tail, e.request = .inject tail → e.position.Free := by
  obtain ⟨rest, hl, -, ⟨he, rfl⟩ | ⟨unit, n, he, hnext⟩ | ⟨tail, he, rfl⟩⟩ := exchanges_step h
  · refine ⟨Or.inl (hi.nextLine hl).injected, ?_⟩
    rw [he]
    simp
  · have hinj := injected_next unit n rest
    rw [hnext, (hi.nextLine hl).injected] at hinj
    refine ⟨Or.inl hinj, ?_⟩
    rw [he]
    simp
  · refine ⟨Or.inr (hi.nextLine hl).pending, ?_⟩
    rw [he]
    simp [hi.nextLine hl]

/-! ### Readings -/

theorem conversation_step {i next : Input} {t : Turn} (h : i.step = .turned t next) :
    i.conversation = i.exchanges t.requests ++ next.conversation := by
  have hrun : i.run.requests = t.requests ++ next.run.requests := by
    rw [run_eq, h]
    exact List.append_assoc _ _ _
  obtain ⟨rest, -, hafter, -⟩ := exchanges_step h
  rw [conversation, hrun, exchanges_append, hafter]
  rfl

theorem conversation_end {i rest : Input} {ending : Ending} (h : i.step = .ended ending rest) :
    i.conversation = i.exchanges ending.requests := by
  rw [conversation, run_eq, h]
  rfl

theorem nextLine_atEnd {i : Input} (h : i.AtEnd) : i.nextLine = (.ok none, i) := by
  rw [nextLine, h.injected]
  show i.readLine = (.ok none, i)
  rw [readLine, if_pos h.pending, h.unread]

/-- The last requests are for the line that is not there, or for what cannot be had. -/
theorem Stopped.asks {i rest : Input} {ending : Ending} (h : Stopped i ending rest) :
    i.afterAll ending.requests = rest ∧
      (i.exchanges ending.requests).filterMap Exchange.line? = ending.lines := by
  cases h with
  | complete hend =>
    have hline := answer_line (nextLine_atEnd hend)
    constructor
    · simp [Ending.requests, afterAll, hline]
    · simp [Ending.requests, Ending.lines, exchanges, hline, Exchange.line?]
  | unreadable hl =>
    constructor
    · simp [Ending.requests, afterAll, answer, hl]
    · simp [Ending.requests, Ending.lines, exchanges, answer, hl, Exchange.line?]
  | interrupted hl hkind hgoes hnext =>
    have hline := answer_line hl
    have hread := answer_next hnext
    constructor
    · simp [Ending.requests, hkind, LineKind.request?, hgoes, afterAll, hline, hread]
    · simp [Ending.requests, Ending.lines, hkind, LineKind.request?, hgoes, exchanges, hline, hread,
        Exchange.line?]

/-- The requests of a reading, made one after the other, lead where the reading leads, and hand
out the lines that it reads. -/
theorem afterAll_requests_run (i : Input) :
    i.afterAll i.run.requests = i.run.rest ∧
      i.conversation.filterMap Exchange.line? = i.run.lines := by
  induction i using run.induct with
  | case1 i ending rest hs =>
    obtain ⟨hafter, hlines⟩ := (stopped_of_step hs).asks
    rw [conversation_end hs, run_eq, hs]
    exact ⟨hafter, hlines⟩
  | case2 i t next hs ih =>
    obtain ⟨hafter, hlines⟩ := ih
    obtain ⟨rest, -, hturn, -⟩ := exchanges_step hs
    rw [conversation_step hs, List.filterMap_append, lines_step hs, hlines, run_eq, hs]
    refine ⟨?_, rfl⟩
    show i.afterAll ((t.requests ++ next.run.turns.flatMap Turn.requests) ++ next.run.ending.requests) =
      next.run.rest
    rw [List.append_assoc, afterAll_append, hturn]
    exact hafter

theorem given_of_mem_conversation {i : Input} (h : i.run.ending = .complete) :
    ∀ e ∈ i.conversation, e.Given := by
  induction i using run.induct with
  | case1 i ending rest hs =>
    rw [run_eq, hs] at h
    obtain rfl : ending = .complete := h
    rw [conversation_end hs]
    have hline := answer_line (nextLine_atEnd (atEnd_of_step hs).2)
    simp [Ending.requests, exchanges, hline, Exchange.Given]
  | case2 i t next hs ih =>
    rw [run_eq, hs] at h
    rw [conversation_step hs]
    intro e he
    rcases List.mem_append.1 he with he | he
    · exact given_step hs e he
    · exact ih h e he

theorem free_of_mem_conversation {i : Input} (hi : i.Clear) :
    ∀ e ∈ i.conversation, ∀ tail, e.request = .inject tail → e.position.Free := by
  induction i using run.induct with
  | case1 i ending rest hs =>
    rw [conversation_end hs]
    intro e he tail hq
    -- The last requests lay no line before the input.
    cases stopped_of_step hs with
    | complete _ => simp_all [Ending.requests, exchanges]
    | unreadable _ => simp_all [Ending.requests, exchanges]
    | interrupted _ hkind hgoes _ =>
      simp [Ending.requests, hkind, LineKind.request?, hgoes, exchanges] at he
      rcases he with rfl | rfl <;> simp at hq
  | case2 i t next hs ih =>
    obtain ⟨hnext, hturn⟩ := clear_step hi hs
    rw [conversation_step hs]
    intro e he
    rcases List.mem_append.1 he with he | he
    · exact hturn e he
    · exact ih hnext e he

/-! ### Tails -/

/-- A line that is laid before the input is the line of the next turn. -/
theorem turns_of_injected {i : Input} {tail : Text} (hi : i.injected = some tail)
    (h : i.run.ending = .complete) :
    ∃ t more, i.run.turns = t :: more ∧ t.line = tail ∧ t.injected = true := by
  cases hs : i.step with
  | ended ending rest =>
    rw [run_eq, hs] at h
    obtain rfl : ending = .complete := h
    have hnone := (atEnd_of_step hs).2.injected
    rw [hi] at hnone
    exact absurd hnone (by simp)
  | turned t next =>
    obtain ⟨line, rest, hl, hturn⟩ := turned_of_step hs
    have hline : line = tail := by
      rw [nextLine, hi] at hl
      exact (Option.some.inj (Except.ok.inj (Prod.mk.inj hl).1)).symm
    refine ⟨t, next.run.turns, by rw [run_eq, hs]; rfl, hturn.asks.1.trans hline, ?_⟩
    have hinj : t.injected = i.injected.isSome := by cases hturn <;> rfl
    rw [hinj, hi]
    rfl

theorem line_behind_leftover {i : Input} (h : i.run.ending = .complete) {before after : List Turn}
    {t : Turn} {tail : Text} (hturns : i.run.turns = before ++ t :: after)
    (ht : t.leftover = some tail) :
    ∃ next more, after = next :: more ∧ next.line = tail ∧ next.injected = true := by
  induction i using run.induct generalizing before with
  | case1 i ending rest hs =>
    rw [run_eq, hs] at hturns
    simp [Step.run] at hturns
  | case2 i first next hs ih =>
    have hinj := injected_step hs
    rw [run_eq, hs] at hturns h
    cases before with
    | nil =>
      obtain ⟨rfl, rfl⟩ := List.cons.inj hturns
      exact turns_of_injected (hinj.trans ht) h
    | cons b before => exact ih h (List.cons.inj hturns).2

end Input

/-- Of an input that is read to its end each character is taken once and in order, a terminator
as the newline that it is read as.  A line is laid before the input only at the beginning of a
line and where none is laid, and it is the next line that is classified. -/
theorem parse_takes_each_once {origin t : Text} {d : Document}
    (h : parse origin (Text.encode t) = .ok d) :
    let i := Input.ofBytes origin (Text.encode t)
    (i.afterAll i.run.requests = i.run.rest ∧
        i.conversation.filterMap Exchange.line? = i.run.turns.map Turn.line) ∧
      i.conversation.flatMap Exchange.taken = normalizeEnds t ∧
      (∀ e ∈ i.conversation, ∀ tail, e.request = .inject tail →
        e.position.injected = none ∧ e.position.pending = []) ∧
      ∀ before turn after tail, i.run.turns = before ++ turn :: after → turn.leftover = some tail →
        ∃ next more, after = next :: more ∧ next.line = tail ∧ next.injected = true := by
  intro i
  have hend : i.run.ending = .complete := (Run.result_eq_ok_iff.1 h).1
  obtain ⟨hafter, hlines⟩ := i.afterAll_requests_run
  have hstart : i.ahead = normalizeEnds t := PhysicalLine.flatten_readable_ofInput_encode t
  have hrest : i.run.rest.ahead = [] := by
    obtain ⟨hunread, hpending, -⟩ := (Input.run_extend [] hend).1
    rw [Input.ahead, hunread, hpending]
    rfl
  have htaken := Input.ahead_eq_of_given (Input.given_of_mem_conversation hend)
  rw [hafter, hrest, List.append_nil, hstart] at htaken
  refine ⟨⟨hafter, ?_⟩, htaken.symm, fun e he tail hq => ?_, fun before turn after tail hturns ht => ?_⟩
  · rw [hlines, Run.lines, hend]
    exact List.append_nil _
  · have hfree := Input.free_of_mem_conversation (Or.inl rfl : i.Clear) e he tail hq
    exact ⟨hfree.injected, hfree.pending⟩
  · exact Input.line_behind_leftover hend hturns ht

/-- A tail that is laid before the input goes on behind a return and inside the next line, whose
rest is then a line. -/
theorem parse_takes_each_once_packed :
    parse [] (Text.encode "k:2c=abm:4c=x\r\nabcd=e".toList) =
        .ok (Document.ofList [("k".toList, "ab".toList), ("m".toList, "x\nab".toList),
          ("cd".toList, "e".toList)]) ∧
      let i := Input.ofBytes [] (Text.encode "k:2c=abm:4c=x\r\nabcd=e".toList)
      i.conversation.flatMap Exchange.taken = "k:2c=abm:4c=x\nabcd=e".toList ∧
        ∃ before turn after, i.run.turns = before ++ turn :: after ∧
          turn.leftover = some "m:4c=x".toList ∧
          ∃ next more, after = next :: more ∧ next.line = "m:4c=x".toList ∧ next.injected = true := by
  have h : parse [] (Text.encode "k:2c=abm:4c=x\r\nabcd=e".toList) =
      .ok (Document.ofList [("k".toList, "ab".toList), ("m".toList, "x\nab".toList),
        ("cd".toList, "e".toList)]) := by decide +kernel
  obtain ⟨-, htaken, -, htails⟩ := parse_takes_each_once h
  refine ⟨h, htaken.trans (by decide), ?_⟩
  have hturns : ∃ turn after,
      (Input.ofBytes [] (Text.encode "k:2c=abm:4c=x\r\nabcd=e".toList)).run.turns = turn :: after ∧
        turn.leftover = some "m:4c=x".toList := by
    have hfirst : ((Input.ofBytes [] (Text.encode "k:2c=abm:4c=x\r\nabcd=e".toList)).run.turns.head?.map
        Turn.leftover) = some (some "m:4c=x".toList) := by decide +kernel
    obtain ⟨turn, hhead, hleft⟩ := Option.map_eq_some_iff.1 hfirst
    obtain ⟨after, hafter⟩ := List.head?_eq_some_iff.1 hhead
    exact ⟨turn, after, hafter, hleft⟩
  obtain ⟨turn, after, hafter, hleft⟩ := hturns
  exact ⟨[], turn, after, hafter, hleft, htails [] turn after _ hafter hleft⟩

end CountedConfig
