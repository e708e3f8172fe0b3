/-
An input that ends inside a value.

The error tells how much was asked for and how much of it there was, and this is exact:
what is put behind the input is counted on, and as much as was missing completes it
(`parseText_append_of_truncated`).
-/
import CountedConfig.Proofs.Composition
import CountedConfig.Proofs.Lines.Newlines
import CountedConfig.Proofs.Refinement
import CountedConfig.Proofs.Text.Split
import CountedConfig.Proofs.Turns

namespace CountedConfig

/-! ### What is left of two inputs one behind the other -/

namespace PhysicalLine

variable {lines more : List PhysicalLine}

theorem behindFault?_append (h : behindFault? lines = none) :
    behindFault? (lines ++ more) = behindFault? more := by
  induction lines with
  | nil => rfl
  | cons line lines ih =>
    cases line with
    | text c t => exact ih h
    | undecodable => simp [behindFault?] at h

theorem readable_append (h : behindFault? lines = none) :
    readable (lines ++ more) = readable lines ++ readable more := by
  induction lines with
  | nil => rfl
  | cons line lines ih =>
    cases line with
    | text c t => exact congrArg ((c :: t) :: ·) (ih h)
    | undecodable => simp [behindFault?] at h

theorem available_append (h : behindFault? lines = none) (unit : CountUnit) :
    available unit (lines ++ more) = available unit lines + available unit more := by
  cases unit <;> simp [available, readable_append h]

theorem length_readable (h : behindFault? lines = none) : (readable lines).length = lines.length := by
  induction lines with
  | nil => rfl
  | cons line lines ih =>
    cases line with
    | text c t => exact congrArg (· + 1) (ih h)
    | undecodable => simp [behindFault?] at h

theorem behind_available (h : behindFault? lines = none) (unit : CountUnit) :
    behind (available unit lines) unit lines = [] := by
  cases unit with
  | lines => rw [available, length_readable h, behind, List.drop_length]
  | characters =>
    induction lines with
    | nil => rfl
    | cons line lines ih =>
      cases line with
      | text c t =>
        have ha : available .characters (.text c t :: lines) =
            (c :: t).length + available .characters lines := List.length_append
        rw [ha, behind]
        have hd := dropChars_withRest_of_le (Nat.le_add_right (c :: t).length
          (available .characters lines)) lines
        rw [Nat.add_sub_cancel_left] at hd
        exact hd.trans (ih h)
      | undecodable => simp [behindFault?] at h

end PhysicalLine

namespace Remainder

open PhysicalLine

/-- Too little is found where all there is is text and does not do. -/
theorem take_eq_exhausted {unit u : CountUnit} {n requested found : Nat} {r rest : Remainder}
    (h : r.take unit n = (.error (.exhausted u requested found), rest)) :
    u = unit ∧ requested = n ∧ found = available unit r.lines ∧ found < n ∧
      behindFault? r.lines = none := by
  unfold take at h
  split at h
  · simp at h
  · rename_i hn
    unfold fail at h
    split at h
    · simp at h
    · rename_i hf
      simp only [Prod.mk.injEq, Except.error.injEq, ReadFailure.exhausted.injEq] at h
      obtain ⟨⟨rfl, rfl, rfl⟩, -⟩ := h
      exact ⟨rfl, rfl, rfl, Nat.lt_of_not_le hn, hf⟩

variable {unit : CountUnit} {n : Nat} {r : Remainder} {more : List PhysicalLine}

theorem take_append_of_lt (hr : behindFault? r.lines = none) (hm : behindFault? more = none)
    (h : available unit r.lines + available unit more < n) :
    (⟨r.lines ++ more, r.injected⟩ : Remainder).take unit n =
      (.error (.exhausted unit n (available unit r.lines + available unit more)),
        ⟨[], r.injected⟩) := by
  rw [← available_append hr] at h ⊢
  exact take_eq_exhausted_of_lt ((behindFault?_append hr).trans hm) h

theorem take_append_of_eq (hr : behindFault? r.lines = none) (hm : behindFault? more = none)
    (h : available unit r.lines + available unit more = n) :
    ∃ t, (⟨r.lines ++ more, r.injected⟩ : Remainder).take unit n = (.ok t, ⟨[], r.injected⟩) := by
  have ha : available unit (r.lines ++ more) = n := by rw [available_append hr, h]
  have hb : behind n unit (r.lines ++ more) = [] := by
    rw [← ha]
    exact behind_available ((behindFault?_append hr).trans hm) unit
  rw [take, ha, if_pos (Nat.le_refl n), hb]
  exact ⟨_, rfl⟩

end Remainder

/-! ### What follows a read that found too little -/

/-- Of `requested` units `found` were there.  When lines of text follow that have fewer than
are missing, `Short` holds of them with what there is then; when they have as many, `Whole`
does. -/
structure Curable (unit : CountUnit) (requested found : Nat)
    (Short : List PhysicalLine → Nat → Prop) (Whole : List PhysicalLine → Prop) : Prop where
  lacking : found < requested
  short : ∀ more, PhysicalLine.behindFault? more = none →
    PhysicalLine.available unit more < requested - found →
      Short more (found + PhysicalLine.available unit more)
  whole : ∀ more, PhysicalLine.behindFault? more = none →
    PhysicalLine.available unit more = requested - found → Whole more

theorem Curable.imp {unit : CountUnit} {requested found : Nat}
    {Short Short' : List PhysicalLine → Nat → Prop} {Whole Whole' : List PhysicalLine → Prop}
    (h : Curable unit requested found Short Whole) (hs : ∀ more n, Short more n → Short' more n)
    (hw : ∀ more, Whole more → Whole' more) : Curable unit requested found Short' Whole' :=
  ⟨h.lacking, fun more hm ha => hs more _ (h.short more hm ha),
    fun more hm ha => hw more (h.whole more hm ha)⟩

namespace Input

open PhysicalLine

variable {i rest : Input} {unit u : CountUnit} {key k fragment : Text} {requested found : Nat}

theorem remainder_extend (more : List PhysicalLine) (i : Input) :
    (i.extend more).remainder = ⟨i.remainder.lines ++ more, i.injected⟩ := by
  obtain ⟨origin, unread, pending, injected, number⟩ := i
  cases pending <;> rfl

theorem atEnd_of_remainder (h : i.remainder = ⟨[], none⟩) : i.AtEnd := by
  obtain ⟨origin, unread, pending, injected, number⟩ := i
  simp only [remainder, Remainder.mk.injEq] at h
  obtain ⟨hlines, rfl⟩ := h
  cases pending with
  | nil => exact ⟨hlines, rfl, rfl⟩
  | cons c t => simp [withRest] at hlines

theorem run_atEnd (h : i.AtEnd) : i.run = ⟨[], .complete, i⟩ := by
  obtain ⟨origin, unread, pending, injected, number⟩ := i
  obtain ⟨rfl, rfl, rfl⟩ := h
  rw [run_eq]
  rfl

theorem next_curable {n : Nat} (h : i.next unit n = (.error (.exhausted u requested found), rest)) :
    u = unit ∧ requested = n ∧ Curable unit requested found
      (fun more available => ∃ next,
        (i.extend more).next unit n = (.error (.exhausted unit n available), next))
      (fun more => ∃ t next,
        (i.extend more).next unit n = (.ok t, next) ∧ next.remainder = ⟨[], i.injected⟩) := by
  have hr := remainder_next unit n i
  rw [h] at hr
  obtain ⟨rfl, rfl, hfound, hlt, hf⟩ := Remainder.take_eq_exhausted hr.symm
  have hext : ∀ more, Prod.map id remainder ((i.extend more).next u requested) =
      (⟨i.remainder.lines ++ more, i.remainder.injected⟩ : Remainder).take u requested :=
    fun more => by rw [remainder_next, remainder_extend]; rfl
  refine ⟨rfl, rfl, hlt, fun more hm ha => ?_, fun more hm ha => ?_⟩
  · have he := hext more
    rw [Remainder.take_append_of_lt hf hm (by omega), ← hfound] at he
    obtain ⟨next, hnext, -⟩ := exists_of_remainder he
    exact ⟨next, hnext⟩
  · have he := hext more
    have hsum : available u i.remainder.lines + available u more = requested := by omega
    obtain ⟨t, ht⟩ := Remainder.take_append_of_eq hf hm hsum
    rw [ht] at he
    obtain ⟨next, hnext, hend⟩ := exists_of_remainder he
    exact ⟨t, next, hnext, hend⟩

/-! ### Values -/

/-- Either the value goes on behind its fragment, or it is complete with it. -/
theorem complete_cases (unit : CountUnit) (key : Text) (count : Nat) (fragment : Text) :
    (∃ n, ∀ i, complete unit key count fragment i = continued key fragment i (i.next unit n)) ∨
      ∃ c, ∀ i, complete unit key count fragment i = (.ok c, i) := by
  cases unit with
  | lines =>
    by_cases h : 1 < count
    · exact .inl ⟨_, completeLines_of_gt h key fragment⟩
    · exact .inr ⟨_, completeLines_of_le (Nat.le_of_not_lt h) key fragment⟩
  | characters =>
    rcases Nat.lt_trichotomy fragment.length count with h | rfl | h
    · exact .inl ⟨_, completeCharacters_of_gt h key⟩
    · exact .inr ⟨_, completeCharacters_self key fragment⟩
    · exact .inr ⟨_, completeCharacters_of_lt h key⟩

theorem continued_eq_truncated {r : Except ReadFailure Text × Input}
    (h : continued key fragment i r = (.error (.truncated k u requested found), rest)) :
    k = key ∧ r = (.error (.exhausted u requested found), rest) := by
  rcases r with ⟨(_ | _) | _, next⟩
  · simp only [continued, ParseError.ofReadFailure, Prod.mk.injEq, Except.error.injEq,
      ParseError.truncated.injEq] at h
    obtain ⟨⟨rfl, rfl, rfl, rfl⟩, rfl⟩ := h
    exact ⟨rfl, rfl⟩
  · simp [continued, ParseError.ofReadFailure] at h
  · simp [continued] at h

theorem complete_curable {count : Nat}
    (h : complete unit key count fragment i = (.error (.truncated k u requested found), rest)) :
    k = key ∧ u = unit ∧ Curable unit requested found
      (fun more available => ∃ next, complete unit key count fragment (i.extend more) =
        (.error (.truncated key unit requested available), next))
      (fun more => ∃ c next, complete unit key count fragment (i.extend more) = (.ok c, next) ∧
        c.leftover = none ∧ next.remainder = ⟨[], i.injected⟩) := by
  rcases complete_cases unit key count fragment with ⟨n, hc⟩ | ⟨c, hc⟩
  · rw [hc] at h
    obtain ⟨rfl, hnext⟩ := continued_eq_truncated h
    obtain ⟨rfl, rfl, hcure⟩ := next_curable hnext
    refine ⟨rfl, rfl, hcure.imp ?_ ?_⟩
    · rintro more available ⟨next, he⟩
      exact ⟨next, by rw [hc, he]; rfl⟩
    · rintro more ⟨t, next, he, hend⟩
      exact ⟨_, next, by rw [hc, he]; rfl, rfl, hend⟩
  · rw [hc] at h
    simp at h

/-! ### Readings -/

theorem turn_curable {line l : Text} {injected : Bool} {number : Nat} (hi : i.injected = none)
    (h : turn line injected i =
      .ended (.interrupted l number (.truncated key unit requested found)) rest) :
    Curable unit requested found
      (fun more available => ∃ number next, turn line injected (i.extend more) =
        .ended (.interrupted line number (.truncated key unit requested available)) next)
      (fun more => ∃ t next, turn line injected (i.extend more) = .turned t next ∧ next.AtEnd) := by
  unfold turn at h ⊢
  split at h
  · rename_i unit' key' count fragment _
    split at h
    · simp at h
    · rename_i e next hc
      simp only [Step.ended.injEq, Ending.interrupted.injEq] at h
      obtain ⟨⟨-, -, rfl⟩, -⟩ := h
      obtain ⟨rfl, rfl, hcure⟩ := complete_curable hc
      refine hcure.imp ?_ ?_
      · rintro more available ⟨next, he⟩
        simp only [he]
        exact ⟨_, _, rfl⟩
      · rintro more ⟨c, next, he, hleft, hend⟩
        rw [hi] at hend
        simp only [he, hleft]
        exact ⟨_, _, rfl, atEnd_of_remainder hend⟩
  all_goals simp at h

theorem step_curable {l : Text} {number : Nat}
    (h : i.step = .ended (.interrupted l number (.truncated key unit requested found)) rest) :
    Curable unit requested found
      (fun more available => ∃ line number next, (i.extend more).step =
        .ended (.interrupted line number (.truncated key unit requested available)) next)
      (fun more => ∃ t next, (i.extend more).step = .turned t next ∧ next.AtEnd) := by
  unfold step at h ⊢
  split at h
  · rename_i line next hl
    have hcure := turn_curable (weight_nextLine hl).1 h
    refine hcure.imp ?_ ?_
    · rintro more available ⟨number, rest, he⟩
      rw [nextLine_extend hl]
      exact ⟨line, number, rest, he⟩
    · rintro more ⟨t, rest, he, hend⟩
      rw [nextLine_extend hl]
      exact ⟨t, rest, he, hend⟩
  · simp at h
  · simp at h

theorem run_curable (h : i.run.error? = some (.truncated key unit requested found)) :
    Curable unit requested found
      (fun more available =>
        (i.extend more).run.error? = some (.truncated key unit requested available))
      (fun more => (i.extend more).run.error? = none) := by
  -- Along the reading: the last step is the one that lacks something, and the turns before
  -- it are the same whatever follows.
  induction i using run.induct with
  | case1 i ending rest hs =>
    rw [run_eq, hs] at h
    cases ending with
    | complete => simp [Step.run, Run.error?] at h
    | unreadable cause => simp [Step.run, Run.error?] at h
    | interrupted line number error =>
      obtain rfl : error = .truncated key unit requested found := by
        simpa [Step.run, Run.error?] using h
      refine (step_curable hs).imp ?_ ?_
      · rintro more available ⟨line, number, next, he⟩
        rw [run_eq, he]
        rfl
      · rintro more ⟨t, next, he, hend⟩
        rw [run_eq, he, Step.error?_run_turned, run_atEnd hend]
        rfl
  | case2 i t next hs ih =>
    rw [run_eq, hs, Step.error?_run_turned] at h
    have he : ∀ more, (i.extend more).run.error? = (next.extend more).run.error? := fun more => by
      rw [run_eq, step_extend hs, Step.error?_run_turned]
    refine (ih h).imp ?_ ?_
    · intro more available hm
      rw [he, hm]
    · intro more hm
      rw [he, hm]

end Input

/-! ### Texts -/

/-- Text that holds so many of the units where it begins a line. -/
inductive CountUnit.Holds : CountUnit → Text → Nat → Prop
  | lines {lines : List Text} (h : ∀ l ∈ lines, '\n' ∉ l) :
    Holds .lines (Text.ofLines lines) lines.length
  /-- A return may be half of a terminator, which counts as one character. -/
  | characters {s : Text} (h : '\r' ∉ s) : Holds .characters s s.length

namespace PhysicalLine

theorem behindFault?_ofInput_encode (t : Text) : behindFault? (ofInput (Text.encode t)) = none := by
  rw [behindFault?_eq_none_iff, undecodable_mem_ofInput, Text.decode?_encode]
  simp

theorem length_ofInput_ofLines {lines : List Text} (h : ∀ l ∈ lines, '\n' ∉ l) :
    (ofInput (Text.encode (Text.ofLines lines))).length = lines.length := by
  induction lines with
  | nil => rfl
  | cons l lines ih =>
    have hl : (10 : UInt8) ∉ Text.encode l :=
      Text.newline_not_mem_encode (h l List.mem_cons_self)
    obtain ⟨line, hline, -⟩ := exists_isLine (b := Text.encode l ++ [10]) (by simp)
    rw [Text.ofLines_cons, Text.encode_line, ofInput_line hl, hline, Option.toList_some,
      List.singleton_append, List.length_cons, List.length_cons,
      ih fun m hm => h m (List.mem_cons_of_mem l hm)]

/-- Without returns the characters that are read are those that were written. -/
theorem flatten_readable_ofInput {s : Text} (h : '\r' ∉ s) :
    (readable (ofInput (Text.encode s))).flatten = s := by
  rw [flatten_readable_ofInput_encode, normalizeEnds_eq_self h]

theorem available_of_holds {unit : CountUnit} {s : Text} {n : Nat} (h : unit.Holds s n) :
    available unit (ofInput (Text.encode s)) = n := by
  cases h with
  | lines h =>
    rw [available, length_readable (behindFault?_ofInput_encode _), length_ofInput_ofLines h]
  | characters h => rw [available, flatten_readable_ofInput h]

end PhysicalLine

theorem Input.ofBytes_encode_append (origin : Text) {t : Text} (ht : t.getLast? = some '\n') (s : Text) :
    ofBytes origin (Text.encode (t ++ s)) =
      (ofBytes origin (Text.encode t)).extend (PhysicalLine.ofInput (Text.encode s)) := by
  obtain ⟨front, rfl⟩ := List.getLast?_eq_some_iff.1 ht
  have hseam : (Text.encode (front ++ ['\n'])).getLast? = some 10 := by
    rw [Text.encode_line]
    exact List.getLast?_concat
  rw [Text.encode_append, ofBytes, PhysicalLine.ofInput_append (.inr hseam)]
  rfl

theorem parseText_eq_error_iff {t : Text} {e : ParseError} :
    parseText t = .error e ↔
      (Input.ofBytes "<string>".toList (Text.encode t)).run.error? = some e := by
  unfold parseText parse Run.result
  cases (Input.ofBytes "<string>".toList (Text.encode t)).run.error? <;> simp

/-- A text that ended inside a value lacks exactly what its error says.  Fewer units behind
it are found and do not do, and as many as are missing complete the reading. -/
theorem parseText_append_of_truncated {t key : Text} {unit : CountUnit} {requested found : Nat}
    (ht : t.getLast? = some '\n')
    (h : parseText t = .error (.truncated key unit requested found)) :
    found < requested ∧ ∀ s n, unit.Holds s n →
      (n < requested - found →
        parseText (t ++ s) = .error (.truncated key unit requested (found + n))) ∧
      (n = requested - found → ∃ d, parseText (t ++ s) = .ok d) := by
  have hcure := Input.run_curable (parseText_eq_error_iff.1 h)
  refine ⟨hcure.lacking, fun s n hs => ?_⟩
  have hf := PhysicalLine.behindFault?_ofInput_encode s
  have ha := PhysicalLine.available_of_holds hs
  have hext := Input.ofBytes_encode_append "<string>".toList ht s
  constructor
  · intro hn
    rw [parseText_eq_error_iff, hext, ← ha]
    exact hcure.short _ hf (ha ▸ hn)
  · intro hn
    have herror := hcure.whole _ hf (ha.trans hn)
    rw [← hext] at herror
    refine ⟨Document.ofList (Input.ofBytes "<string>".toList (Text.encode (t ++ s))).run.entries, ?_⟩
    unfold parseText parse Run.result
    rw [herror]

/-- A value that counts lines and begins inside a line, and one that counts characters and
begins with the tail of another: each lacks something still, and then nothing. -/
theorem parseText_append_of_truncated_inside :
    (parseText "k:5c=ab\ncdn:4L=x\ny\n".toList = .error (.truncated ['n'] .lines 3 1) ∧
      parseText ("k:5c=ab\ncdn:4L=x\ny\n".toList ++ Text.ofLines [['z']]) =
        .error (.truncated ['n'] .lines 3 2) ∧
      ∃ d, parseText ("k:5c=ab\ncdn:4L=x\ny\n".toList ++ Text.ofLines [['z', '\r'], []]) = .ok d) ∧
    parseText "a:2c=xyb:9c=p\nq\n".toList = .error (.truncated ['b'] .characters 7 2) ∧
      parseText ("a:2c=xyb:9c=p\nq\n".toList ++ ['r', '\n']) =
        .error (.truncated ['b'] .characters 7 4) ∧
      ∃ d, parseText ("a:2c=xyb:9c=p\nq\n".toList ++ ['r', '\n', '#', '=', 's']) = .ok d := by
  have hlines : parseText "k:5c=ab\ncdn:4L=x\ny\n".toList =
      .error (.truncated ['n'] .lines 3 1) := by decide +kernel
  have hchars : parseText "a:2c=xyb:9c=p\nq\n".toList =
      .error (.truncated ['b'] .characters 7 2) := by decide +kernel
  obtain ⟨-, cureLines⟩ := parseText_append_of_truncated (by decide +kernel) hlines
  obtain ⟨-, cureChars⟩ := parseText_append_of_truncated (by decide +kernel) hchars
  exact ⟨⟨hlines, (cureLines _ _ (.lines (by decide))).1 (by decide),
      (cureLines _ _ (.lines (by decide))).2 (by decide)⟩,
    hchars, (cureChars _ _ (.characters (by decide))).1 (by decide),
      (cureChars _ _ (.characters (by decide))).2 (by decide)⟩

end CountedConfig
