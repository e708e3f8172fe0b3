/-
The numbers of lines.

A position counts the physical lines that have been brought in, so what is pending there is the end
of the line of that number (`Located`).  A logical line is handed out where its physical line ends.
It is all of that line, or what a read by characters left of it, or the tail that a value left of
it, however often one was left before (`Stands`).  The numbers in a log are therefore those of the
lines that its records are about, and they go up with the position (`log_numbers`).
-/
import CountedConfig.Proofs.Kept
import CountedConfig.Proofs.Log
import CountedConfig.Proofs.Shape

namespace CountedConfig

/-! ### Ends of physical lines -/

namespace PhysicalLine

variable {lines : List PhysicalLine} {n : Nat} {s t : Text}

/-- The text is an end of the line with this number, the first line having the number one. -/
def Ends (lines : List PhysicalLine) (n : Nat) (t : Text) : Prop :=
  ∃ m c rest, n = m + 1 ∧ lines[m]? = some (.text c rest) ∧ t <:+ c :: rest

theorem Ends.of_suffix (h : Ends lines n t) (hs : s <:+ t) : Ends lines n s := by
  obtain ⟨m, c, rest, hm, hline, ht⟩ := h
  exact ⟨m, c, rest, hm, hline, hs.trans ht⟩

theorem Ends.singleLine (hlines : ∀ line ∈ lines, line.SingleLine) (h : Ends lines n t) :
    Text.SingleLine t := by
  obtain ⟨m, c, rest, -, hline, ht⟩ := h
  have hsingle : Text.SingleLine (c :: rest) := hlines _ (List.mem_of_getElem? hline)
  exact hsingle.of_suffix ht

/-- The text is something, and an end of the line with this number, except that the newline at
the end of the line may be missing. -/
structure Stands (lines : List PhysicalLine) (n : Nat) (t : Text) : Prop where
  nonempty : t ≠ []
  ends : Ends lines n t ∨ Ends lines n (t ++ ['\n'])

/-- The tail of a fragment stands where its line does. -/
theorem Stands.tail (hlines : ∀ line ∈ lines, line.SingleLine) {line key fragment : Text}
    {unit : CountUnit} {count k : Nat} (h : Stands lines n line)
    (hkind : LineKind.ofLine line = .counted unit key count fragment) (hk : k < fragment.length) :
    Stands lines n (fragment.drop k) := by
  have hne : fragment.drop k ≠ [] := by
    intro he
    have := congrArg List.length he
    rw [List.length_drop, List.length_nil] at this
    omega
  have hended : ∀ body, Ends lines n (body ++ ['\n']) →
      LineKind.ofLine body = .counted unit key count fragment → Stands lines n (fragment.drop k) := by
    intro body hbody hkind
    have hn : '\n' ∉ body := by
      have hsingle := hbody.singleLine hlines
      rwa [Text.SingleLine, List.dropLast_concat] at hsingle
    obtain ⟨front, hfront⟩ := (List.drop_suffix k fragment).trans (LineKind.fragment_suffix hn hkind)
    refine ⟨hne, Or.inr (hbody.of_suffix ⟨front, ?_⟩)⟩
    rw [← List.append_assoc, hfront]
  rcases h.ends with hline | hline
  · obtain ⟨body, hn, rfl | rfl⟩ := (hline.singleLine hlines).exists_body
    · refine ⟨hne, Or.inl (hline.of_suffix ?_)⟩
      exact (List.drop_suffix k fragment).trans (LineKind.fragment_suffix hn hkind)
    · rw [LineKind.ofLine_newline] at hkind
      exact hended body hline hkind
  · exact hended line hline hkind

end PhysicalLine

namespace Input

open PhysicalLine

variable {lines : List PhysicalLine} {i rest : Input}

/-! ### Positions -/

/-- The position is behind the line of its number, and at the beginning of the next. -/
structure BehindLine (lines : List PhysicalLine) (i : Input) : Prop where
  pending : i.pending = []
  unread : i.unread = lines.drop i.lineNumber

/-- The position is in the line of its number, or behind it. -/
structure Located (lines : List PhysicalLine) (i : Input) : Prop where
  pending : i.pending ≠ [] → Ends lines i.lineNumber i.pending
  unread : i.unread = lines.drop i.lineNumber

theorem BehindLine.located (h : i.BehindLine lines) : i.Located lines :=
  ⟨fun hp => absurd h.pending hp, h.unread⟩

theorem Located.readLine {line : Text} (h : i.Located lines)
    (hr : i.readLine = (.ok (some line), rest)) :
    Ends lines rest.lineNumber line ∧ line ≠ [] ∧ rest.BehindLine lines := by
  have hpending := pending_readLine hr
  unfold Input.readLine at hr
  split at hr
  · split at hr
    · simp at hr
    · simp at hr
    · rename_i c t more hu
      cases hr
      rw [h.unread] at hu
      have hline : lines[i.lineNumber]? = some (.text c t) := by
        rw [← List.head?_drop, hu, List.head?_cons]
      have hmore : more = lines.drop (i.lineNumber + 1) := by
        rw [← List.tail_drop, hu, List.tail_cons]
      exact ⟨⟨i.lineNumber, c, t, rfl, hline, List.suffix_rfl⟩, List.cons_ne_nil c t, hpending, hmore⟩
  · rename_i hp
    cases hr
    exact ⟨h.pending hp, hp, hpending, h.unread⟩

theorem Located.takeLines {requested missing : Nat} {t : Text} (h : i.Located lines)
    (hr : Input.takeLines requested missing i = (.ok t, rest)) : rest.Located lines := by
  induction missing generalizing i t with
  | zero =>
    cases hr
    exact h
  | succ missing ih =>
    rw [Input.takeLines] at hr
    split at hr
    · rename_i line next hline
      obtain ⟨u, hu, -⟩ := prepend_eq_ok hr
      obtain ⟨-, -, hnext⟩ := h.readLine hline
      exact ih hnext.located hu
    · simp at hr
    · simp at hr

theorem Located.takeChars {requested missing : Nat} {t : Text} (h : i.Located lines)
    (hr : Input.takeChars requested missing i = (.ok t, rest)) : rest.Located lines := by
  fun_induction Input.takeChars requested missing i generalizing t with
  | case1 i =>
    cases hr
    exact h
  | case2 missing i hm line next hline hle =>
    -- What is left of the line is an end of it.
    obtain ⟨hends, -, hnext⟩ := h.readLine hline
    cases hr
    exact ⟨fun _ => hends.of_suffix (List.drop_suffix missing line), hnext.unread⟩
  | case3 missing i hm line next hline hgt ih =>
    obtain ⟨u, hu, -⟩ := prepend_eq_ok hr
    obtain ⟨-, -, hnext⟩ := h.readLine hline
    exact ih hnext.located hu
  | case4 => simp at hr
  | case5 => simp at hr

theorem Located.next {unit : CountUnit} {n : Nat} {t : Text} (h : i.Located lines)
    (hr : i.next unit n = (.ok t, rest)) : rest.Located lines := by
  cases unit with
  | lines => exact h.takeLines hr
  | characters => exact h.takeChars hr

/-! ### Turns -/

/-- The invariant of a reading. -/
structure Placed (lines : List PhysicalLine) (i : Input) : Prop where
  located : i.Located lines
  injected : ∀ tail, i.injected = some tail → Stands lines i.lineNumber tail ∧ i.BehindLine lines

theorem placed_ofBytes (origin : Text) (b : Bytes) :
    (ofBytes origin b).Placed (PhysicalLine.ofInput b) :=
  ⟨⟨fun hp => absurd rfl hp, rfl⟩, fun _ he => nomatch he⟩

theorem BehindLine.placed (h : i.BehindLine lines) (hi : i.injected = none) : i.Placed lines := by
  refine ⟨h.located, fun tail he => ?_⟩
  rw [hi] at he
  exact nomatch he

/-- A line is handed out at its end. -/
theorem Placed.nextLine {line : Text} (h : i.Placed lines)
    (hl : i.nextLine = (.ok (some line), rest)) :
    Stands lines rest.lineNumber line ∧ rest.BehindLine lines := by
  unfold Input.nextLine at hl
  split at hl
  · rename_i tail hi
    cases hl
    obtain ⟨hstands, hbehind⟩ := h.injected line hi
    exact ⟨hstands, hbehind.pending, hbehind.unread⟩
  · obtain ⟨hends, hne, hbehind⟩ := h.located.readLine hl
    exact ⟨⟨hne, Or.inl hends⟩, hbehind⟩

theorem Turned.placed {line : Text} {injected : Bool} {next : Input} {t : Turn}
    (hlines : ∀ line ∈ lines, line.SingleLine) (hstands : Stands lines i.lineNumber line)
    (hbehind : i.BehindLine lines) (hi : i.injected = none) (h : Turned line injected i t next) :
    next.Placed lines := by
  cases h with
  | @counted unit key fragment count c rest hkind hc =>
    cases hc with
    | @continued more rest _ hnext =>
      have hinj : rest.injected = none := by
        have := injected_next unit (unit.beyond count fragment) i
        rw [hnext] at this
        exact this.trans hi
      refine ⟨hbehind.located.next hnext, fun tail he => ?_⟩
      show Stands lines rest.lineNumber tail ∧ rest.BehindLine lines
      have hnone : rest.injected = some tail := he
      rw [hinj] at hnone
      exact nomatch hnone
    | whole _ _ => exact hbehind.placed hi
    | cut _ hlt =>
      have htail := hstands.tail hlines hkind hlt
      refine ⟨⟨fun hp => absurd hbehind.pending hp, hbehind.unread⟩, fun tail he => ?_⟩
      obtain rfl := Option.some.inj he
      exact ⟨htail, hbehind.pending, hbehind.unread⟩
  | plain _ => exact hbehind.placed hi
  | idle _ => exact hbehind.placed hi

theorem Placed.step {next : Input} {t : Turn} (hlines : ∀ line ∈ lines, line.SingleLine)
    (h : i.Placed lines) (hs : i.step = .turned t next) : next.Placed lines := by
  obtain ⟨line, rest, hl, hturn⟩ := turned_of_step hs
  obtain ⟨hstands, hbehind⟩ := h.nextLine hl
  exact hturn.placed hlines hstands hbehind (weight_nextLine hl).1

/-! ### Readings -/

theorem Turned.line_number {line : Text} {injected : Bool} {next : Input} {t : Turn}
    (h : Turned line injected i t next) : t.line = line ∧ t.number = i.lineNumber := by
  cases h <;> exact ⟨rfl, rfl⟩

/-- Each line was handed out at a position that the reading came to, and the number is that of
the position behind it. -/
theorem exists_reaches_of_mem_handed {c : Nat × Text} (h : c ∈ i.run.handed) :
    ∃ k j rest, i.Reaches k j ∧ j.nextLine = (.ok (some c.2), rest) ∧ rest.lineNumber = c.1 := by
  rcases List.mem_append.1 h with h | h
  · obtain ⟨t, ht, rfl⟩ := List.mem_map.1 h
    obtain ⟨k, j, next, hj, hs⟩ := exists_reaches_of_mem_turns ht
    obtain ⟨line, rest, hl, hturn⟩ := turned_of_step hs
    obtain ⟨rfl, hnumber⟩ := hturn.line_number
    exact ⟨k, j, rest, hj, hl, hnumber.symm⟩
  · obtain ⟨j, hj, hstop⟩ := stopped_run i
    generalize i.run.ending = ending at h hstop
    cases hstop with
    | complete _ => exact absurd h List.not_mem_nil
    | unreadable _ => exact absurd h List.not_mem_nil
    | interrupted hl _ _ _ =>
      obtain rfl := List.mem_singleton.1 h
      exact ⟨_, j, _, hj, hl, rfl⟩

theorem Placed.reaches {k : Nat} {j : Input} (hlines : ∀ line ∈ lines, line.SingleLine)
    (h : i.Placed lines) (hj : i.Reaches k j) : j.Placed lines :=
  hj.invariant h fun _ _ _ hp hs => hp.step hlines hs

/-! ### Numbers go up -/

theorem kept_le_lineNumber (n : Nat) : Kept fun i => n ≤ i.lineNumber where
  readLine {i} hi := by
    unfold readLine
    split
    · split
      · exact hi
      · exact hi
      · exact Nat.le_succ_of_le hi
    · exact hi
  place _ _ hi := hi

theorem lineNumber_nextLine {line : Text} (hl : i.nextLine = (.ok (some line), rest)) :
    i.lineNumber ≤ rest.lineNumber := by
  have hrest := (kept_le_lineNumber i.lineNumber).nextLine (Nat.le_refl i.lineNumber)
  rwa [hl] at hrest

/-- The number of a turn lies between those of the positions before it and behind it. -/
theorem number_step {next : Input} {t : Turn} (hs : i.step = .turned t next) :
    i.lineNumber ≤ t.number ∧ t.number ≤ next.lineNumber := by
  obtain ⟨line, rest, hl, hturned⟩ := turned_of_step hs
  have hturn : turn line i.injected.isSome rest = .turned t next := by
    rw [step, hl] at hs
    exact hs
  rw [hturned.line_number.2]
  exact ⟨lineNumber_nextLine hl,
    (kept_le_lineNumber rest.lineNumber).turn (Nat.le_refl rest.lineNumber) hturn⟩

/-- The numbers of the lines that are handed out go up from the number of the position. -/
theorem pairwise_handed (i : Input) :
    (∀ c ∈ i.run.handed, i.lineNumber ≤ c.1) ∧ i.run.handed.Pairwise fun a b => a.1 ≤ b.1 := by
  induction i using run.induct with
  | case1 i ending rest hs =>
    have hhanded : i.run.handed = ending.handed := by
      rw [run_eq, hs]
      rfl
    rw [hhanded]
    cases stopped_of_step hs with
    | complete _ => exact ⟨fun c hc => absurd hc List.not_mem_nil, List.Pairwise.nil⟩
    | unreadable _ => exact ⟨fun c hc => absurd hc List.not_mem_nil, List.Pairwise.nil⟩
    | interrupted hl _ _ _ =>
      refine ⟨fun c hc => ?_, List.pairwise_singleton _ _⟩
      obtain rfl := List.mem_singleton.1 hc
      exact lineNumber_nextLine hl
  | case2 i t next hs ih =>
    obtain ⟨hleast, hup⟩ := ih
    obtain ⟨hbefore, hbehind⟩ := number_step hs
    have hhanded : i.run.handed = (t.number, t.line) :: next.run.handed := by
      rw [run_eq i, hs]
      rfl
    have hlater : ∀ c ∈ next.run.handed, t.number ≤ c.1 := fun c hc =>
      Nat.le_trans hbehind (hleast c hc)
    rw [hhanded]
    refine ⟨List.forall_mem_cons.2 ⟨hbefore, fun c hc => ?_⟩, List.pairwise_cons.2 ⟨hlater, hup⟩⟩
    exact Nat.le_trans hbefore (hlater c hc)

/-- A line that is passed over is told of twice, under one number. -/
theorem pairwise_number?_log (i : Input) :
    (i.run.log.filterMap Event.number?).Pairwise (· ≤ ·) := by
  have hnumbers : ∀ c : Nat × Text, ∀ n ∈ c.1 ::
      (if LineKind.ofLine c.2 = .unrecognized then [c.1] else []), n = c.1 := by
    intro c n hn
    by_cases hkind : LineKind.ofLine c.2 = .unrecognized
    · simpa [hkind] using hn
    · simpa [hkind] using hn
  rw [filterMap_number?_log, List.pairwise_flatMap]
  refine ⟨fun c _ => ?_, (pairwise_handed i).2.imp fun {a b} hab m hm n hn => ?_⟩
  · by_cases hkind : LineKind.ofLine c.2 = .unrecognized
    · simp [hkind]
    · simp [hkind]
  · rw [hnumbers a m hm, hnumbers b n hn]
    exact hab

end Input

/-- Each line that the log of a reading classifies, or tells to be passed over, was handed out at
the end of the physical line with its number, and is an end of that line, but for the newline at
most.  The numbers never go down. -/
theorem log_numbers (origin : Text) (b : Bytes) :
    let r := (Input.ofBytes origin b).run
    ∃ lines, PhysicalLine.LinesOf b lines ∧
      r.log.filterMap Event.classified? = r.handed.map (fun c => (c.1, LineKind.ofLine c.2)) ∧
      (r.log.filterMap Event.skipped? = r.handed.flatMap fun c =>
        if LineKind.ofLine c.2 = .unrecognized then [(c.1, Text.trimEnd c.2)] else []) ∧
      (∀ c ∈ r.handed, PhysicalLine.Stands lines c.1 c.2 ∧
        ∃ k j rest, (Input.ofBytes origin b).Reaches k j ∧ j.nextLine = (.ok (some c.2), rest) ∧
          rest.lineNumber = c.1 ∧ rest.BehindLine lines) ∧
      (r.log.filterMap Event.number?).Pairwise (· ≤ ·) := by
  intro r
  have hlines := PhysicalLine.linesOf_ofInput b
  refine ⟨_, hlines, Input.filterMap_classified?_log _, Input.filterMap_skipped?_log _,
    fun c hc => ?_, Input.pairwise_number?_log _⟩
  obtain ⟨k, j, rest, hj, hl, hnumber⟩ := Input.exists_reaches_of_mem_handed hc
  have hplaced := (Input.placed_ofBytes origin b).reaches hlines.singleLine hj
  obtain ⟨hstands, hbehind⟩ := hplaced.nextLine hl
  rw [hnumber] at hstands
  exact ⟨hstands, k, j, rest, hj, hl, hnumber, hbehind⟩

/-- A tail keeps the number of its line, and what a read by characters leaves of a line has the
number of that one. -/
theorem log_numbers_packed :
    (Input.ofBytes [] (Text.encode "a:1c=xb:4c=y\r\nzu?\n\n??".toList)).run.handed =
        [(1, "a:1c=xb:4c=y\n".toList), (1, "b:4c=y".toList), (2, "?\n".toList), (3, "\n".toList),
          (4, "??".toList)] ∧
      (Input.ofBytes [] (Text.encode "a:1c=xb:4c=y\r\nzu?\n\n??".toList)).run.log.filterMap
        Event.skipped? = [(2, "?".toList), (4, "??".toList)] ∧
      ∃ lines, PhysicalLine.LinesOf (Text.encode "a:1c=xb:4c=y\r\nzu?\n\n??".toList) lines ∧
        PhysicalLine.Stands lines 1 "b:4c=y".toList ∧ PhysicalLine.Stands lines 2 "?\n".toList := by
  have hhanded : (Input.ofBytes [] (Text.encode "a:1c=xb:4c=y\r\nzu?\n\n??".toList)).run.handed =
      [(1, "a:1c=xb:4c=y\n".toList), (1, "b:4c=y".toList), (2, "?\n".toList), (3, "\n".toList),
        (4, "??".toList)] := by decide +kernel
  obtain ⟨lines, hlines, -, hskipped, hstands, -⟩ :=
    log_numbers [] (Text.encode "a:1c=xb:4c=y\r\nzu?\n\n??".toList)
  rw [hhanded] at hskipped hstands
  refine ⟨hhanded, hskipped.trans (by decide +kernel), lines, hlines, ?_, ?_⟩
  · exact (hstands (1, "b:4c=y".toList) (by decide)).1
  · exact (hstands (2, "?\n".toList) (by decide)).1

end CountedConfig
