/-
What a log says of the result.

A turn that stores an entry tells so, and it tells when the key was there before, so the log keeps
count of the entries of the document (`Run.size_add_reassigned`) and says of every key how long its
value has become.  A reading that comes to the end of its input has brought in every line of it
(`Input.lineNumber_run`), and its last record gives both numbers.  A reading that fails ends with
the line that it could not complete, if there is one, and has stored what was before that line.
-/
import CountedConfig.Proofs.Kept
import CountedConfig.Proofs.Log
import CountedConfig.Proofs.Readability
import CountedConfig.Proofs.Truncation
import Mathlib.Data.List.Basic

namespace CountedConfig

/-! ### What was stored -/

theorem lookup_map_snd {α β : Type} (f : α → β) (entries : List (Text × α)) (k : Text) :
    (entries.map fun e => (e.1, f e.2)).lookup k = (entries.lookup k).map f := by
  rw [List.lookup_eq_findSome?, List.lookup_eq_findSome?, List.findSome?_map, List.map_findSome?]
  congr 1
  funext e
  simp

namespace Turn

/-- An entry makes the document larger unless its key was there before. -/
theorem size_apply (origin : Text) (d : Document) (t : Turn) :
    (t.apply d).size + ((t.events origin d).filterMap Event.reassigned?).length =
      d.size + ((t.events origin d).filterMap Event.stored?).length := by
  unfold apply events
  cases t.entry with
  | none => by_cases h : t.kind = .unrecognized <;>
      simp [h, Event.reassigned?, Event.stored?, List.filterMap_cons]
  | some e =>
    have hsize := d.size_insert e.1 e.2
    by_cases h : d.contains e.1 = true
    · rw [if_pos h] at hsize
      simp [h, hsize, Event.reassigned?, Event.stored?, List.filterMap_cons]
    · rw [if_neg h] at hsize
      simp [h, hsize, Event.reassigned?, Event.stored?, List.filterMap_cons]

end Turn

namespace Run

theorem foldl_apply (d : Document) (turns : List Turn) :
    turns.foldl Turn.apply d = d.insertAll (turns.filterMap Turn.entry) := by
  induction turns generalizing d with
  | nil => rfl
  | cons t turns ih =>
    rw [List.foldl_cons, ih, List.filterMap_cons, Turn.apply]
    cases t.entry <;> rfl

theorem size_eventsFrom (origin : Text) (d : Document) (turns : List Turn) :
    (turns.foldl Turn.apply d).size +
        ((eventsFrom origin d turns).filterMap Event.reassigned?).length =
      d.size + ((eventsFrom origin d turns).filterMap Event.stored?).length := by
  induction turns generalizing d with
  | nil => rfl
  | cons t turns ih =>
    have hturn := t.size_apply origin d
    have hmore := ih (t.apply d)
    rw [List.foldl_cons, eventsFrom, List.filterMap_append, List.filterMap_append,
      List.length_append, List.length_append]
    omega

variable (r : Run)

/-- A record that closes a log is about no entry. -/
theorem filterMap_closing {α : Type} {view : Event → Option α}
    (hclassified : ∀ number kind, view (.classified number kind) = none)
    (hparsed : ∀ entries origin lines, view (.parsed entries origin lines) = none) :
    r.closing.filterMap view = [] := by
  unfold closing
  cases r.ending with
  | complete => exact List.filterMap_cons_none (hparsed _ _ _)
  | unreadable cause => rfl
  | interrupted line number e => exact List.filterMap_cons_none (hclassified _ _)

/-- The document has as many entries as were stored, but for those stored again. -/
theorem size_add_reassigned :
    (Document.ofList r.entries).size + (r.log.filterMap Event.reassigned?).length =
      (r.log.filterMap Event.stored?).length := by
  have hsize := size_eventsFrom r.rest.origin .empty r.turns
  have hempty : Document.empty.size = 0 := rfl
  rw [foldl_apply, hempty, Nat.zero_add] at hsize
  rw [log, List.filterMap_append, List.filterMap_append,
    r.filterMap_closing (fun _ _ => rfl) (fun _ _ _ => rfl),
    r.filterMap_closing (fun _ _ => rfl) (fun _ _ _ => rfl), List.append_nil, List.append_nil]
  exact hsize

theorem filterMap_stored?_log :
    r.log.filterMap Event.stored? = r.entries.map fun e => (e.1, e.2.length) := by
  have hturns := filterMap_eventsFrom
    (fun t (_ : t ∈ r.turns) d => t.filterMap_stored?_events r.rest.origin d) .empty
  rw [log, List.filterMap_append, hturns, r.filterMap_closing (fun _ _ => rfl) (fun _ _ _ => rfl),
    List.append_nil, entries, List.map_filterMap, List.filterMap_eq_flatMap_toList]

/-- The log tells how long the value of each key has become. -/
theorem length_get?_ofList (key : Text) :
    ((Document.ofList r.entries).get? key).map List.length =
      (r.log.filterMap Event.stored?).reverse.lookup key := by
  rw [Document.get?_ofList_eq_lookup_reverse, filterMap_stored?_log, ← List.map_reverse,
    lookup_map_snd]

/-- No turn closes a log. -/
theorem parsed_not_mem_eventsFrom (origin : Text) (d : Document) (turns : List Turn)
    (entries : Nat) (name : Text) (lines : Nat) :
    Event.parsed entries name lines ∉ eventsFrom origin d turns := by
  induction turns generalizing d with
  | nil => exact List.not_mem_nil
  | cons t turns ih =>
    have hturn : Event.parsed entries name lines ∉ t.events origin d := by
      unfold Turn.events
      cases t.entry with
      | none => by_cases h : t.kind = .unrecognized <;> simp [h]
      | some e => by_cases h : d.contains e.1 = true <;> simp [h]
    intro h
    rcases List.mem_append.1 h with h | h
    · exact hturn h
    · exact ih _ h

/-- Only a reading that comes to its end closes its log. -/
theorem parsed_not_mem_log {r : Run} (h : r.ending ≠ .complete) (entries : Nat) (name : Text)
    (lines : Nat) : Event.parsed entries name lines ∉ r.log := by
  have hclosing : Event.parsed entries name lines ∉ r.closing := by
    unfold closing
    cases hending : r.ending with
    | complete => exact absurd hending h
    | unreadable cause => exact List.not_mem_nil
    | interrupted line number e => simp
  intro hm
  rcases List.mem_append.1 hm with hm | hm
  · exact parsed_not_mem_eventsFrom _ _ _ _ _ _ hm
  · exact hclosing hm

theorem log_of_complete {r : Run} (h : r.ending = .complete) :
    r.log = eventsFrom r.rest.origin .empty r.turns ++
      [.parsed (Document.ofList r.entries).size r.rest.origin r.rest.lineNumber] := by
  rw [log, closing, h]

end Run

/-! ### The number of lines -/

namespace Input

variable {i : Input}

/-- While nothing ahead is unreadable every line that is passed is counted. -/
theorem kept_lastNumber (n : Nat) : Kept fun i => .undecodable ∉ i.unread ∧ i.lastNumber = n where
  readLine {i} hi := by
    obtain ⟨hreadable, hlast⟩ := hi
    refine ⟨kept_readable.readLine hreadable, ?_⟩
    unfold readLine
    split
    · split
      · exact hlast
      · rename_i hu
        exact absurd (hu ▸ List.mem_cons_self) hreadable
      · rename_i c rest more hu
        show i.lineNumber + 1 + more.length = n
        rw [lastNumber, hu, List.length_cons] at hlast
        omega
    · exact hlast
  place _ _ hi := hi

/-- At the end of the input all of its lines have been counted. -/
theorem lineNumber_run (hi : .undecodable ∉ i.unread) (h : i.run.ending = .complete) :
    i.run.rest.lineNumber = i.lastNumber := by
  obtain ⟨j, hj, hs⟩ := exists_reaches_end i
  rw [h] at hs
  obtain ⟨hrest, hend⟩ := atEnd_of_step hs
  obtain ⟨-, hlast⟩ := (kept_lastNumber i.lastNumber).reaches ⟨hi, rfl⟩ hj
  rw [lastNumber, hend.unread, List.length_nil] at hlast
  rw [hrest]
  exact hlast

/-! ### Values that could not be completed -/

theorem next_eq_exhausted {rest : Input} {unit u : CountUnit} {n requested found : Nat}
    (h : i.next unit n = (.error (.exhausted u requested found), rest)) :
    u = unit ∧ requested = n := by
  have hr := remainder_next unit n i
  rw [h] at hr
  obtain ⟨hunit, hn, -⟩ := Remainder.take_eq_exhausted hr.symm
  exact ⟨hunit, hn⟩

/-- A reading that lacks something for a value was interrupted at the line of that value. -/
theorem interrupted_of_truncated {key : Text} {unit : CountUnit} {requested available : Nat}
    (h : i.run.error? = some (.truncated key unit requested available)) :
    ∃ line number count fragment,
      i.run.ending = .interrupted line number (.truncated key unit requested available) ∧
        LineKind.ofLine line = .counted unit key count fragment ∧
        requested = unit.beyond count fragment := by
  obtain ⟨j, -, hstop⟩ := stopped_run i
  rw [Run.error?] at h
  generalize i.run.ending = ending at h hstop ⊢
  cases hstop with
  | complete _ => simp at h
  | unreadable _ => simp at h
  | @interrupted line k fragment u count after rest failure hl hkind hgoes hnext =>
    have herror : ParseError.ofReadFailure k after.origin failure =
        .truncated key unit requested available := Option.some.inj h
    cases failure with
    | unreadable cause => simp [ParseError.ofReadFailure] at herror
    | exhausted v n found =>
      simp only [ParseError.ofReadFailure, ParseError.truncated.injEq] at herror
      obtain ⟨rfl, rfl, rfl, rfl⟩ := herror
      obtain ⟨rfl, hn⟩ := next_eq_exhausted hnext
      exact ⟨line, after.lineNumber, count, fragment, rfl, hkind, hn⟩

/-- The lines that were to store a key are those of the entries, and the line that a reading was
interrupted at. -/
theorem filterMap_key?_log (i : Input) :
    (i.run.log.filterMap Event.classified?).filterMap (fun c => c.2.key?) =
      (i.run.log.filterMap Event.stored?).map Prod.fst ++
        i.run.ending.handed.filterMap fun c => (LineKind.ofLine c.2).key? := by
  have hkey : ∀ t ∈ i.run.turns, t.kind.key? = t.entry.map Prod.fst := fun t ht =>
    (storesKey_of_mem_turns ht).symm
  rw [filterMap_classified?_log, Run.filterMap_stored?_log, Run.handed, List.map_append,
    List.filterMap_append, List.map_map, List.filterMap_map, List.filterMap_map, List.map_map,
    Run.entries, List.map_filterMap]
  refine congrArg (· ++ _) ?_
  exact List.filterMap_congr hkey

end Input

theorem Run.result_eq_error_iff {r : Run} {e : ParseError} : r.result = .error e ↔ r.error? = some e := by
  unfold result
  cases r.error? <;> simp

/-- The last record of a reading that succeeds tells the number of entries of the document and of
lines of the input, and what was stored before accounts for every entry.  One that fails has no
such record; and when a value lacks something the line of it is the last that is told of, and has
stored nothing. -/
theorem log_accounts (origin : Text) (b : Bytes) :
    let r := (Input.ofBytes origin b).run
    (∀ d, parse origin b = .ok d →
      (∃ before lines, PhysicalLine.LinesOf b lines ∧
        r.log = before ++ [.parsed d.size origin lines.length]) ∧
      d.size + (r.log.filterMap Event.reassigned?).length =
        (r.log.filterMap Event.stored?).length ∧
      ∀ key, (d.get? key).map List.length = (r.log.filterMap Event.stored?).reverse.lookup key) ∧
    (∀ e, parse origin b = .error e →
      ∀ entries name lines, Event.parsed entries name lines ∉ r.log) ∧
    ∀ key unit requested available,
      parse origin b = .error (.truncated key unit requested available) →
      (∃ before number count fragment,
        r.log = before ++ [.classified number (.counted unit key count fragment)] ∧
          requested = unit.beyond count fragment) ∧
      (r.log.filterMap Event.classified?).filterMap (fun c => c.2.key?) =
        (r.log.filterMap Event.stored?).map Prod.fst ++ [key] := by
  intro r
  refine ⟨fun d h => ?_, fun e h => ?_, fun key unit requested available h => ?_⟩
  · obtain ⟨hend, rfl⟩ := Run.result_eq_ok_iff.1 h
    have hreadable : .undecodable ∉ (Input.ofBytes origin b).unread := by
      intro hm
      have hnone := PhysicalLine.undecodable_mem_ofInput.1 hm
      rw [parse_eq_unreadable_iff.2 ⟨hnone, rfl, rfl⟩] at h
      simp at h
    have hlines : r.rest.lineNumber = (PhysicalLine.ofInput b).length := by
      rw [Input.lineNumber_run hreadable hend, Input.lastNumber]
      exact Nat.zero_add _
    have horigin : r.rest.origin = origin := Input.origin_run _
    have hlog := Run.log_of_complete hend
    rw [hlines, horigin] at hlog
    exact ⟨⟨_, _, PhysicalLine.linesOf_ofInput b, hlog⟩, r.size_add_reassigned, r.length_get?_ofList⟩
  · refine Run.parsed_not_mem_log fun hend => ?_
    rw [parse, Run.result_eq_error_iff, Run.error?_eq_none_iff.2 hend] at h
    simp at h
  · obtain ⟨line, number, count, fragment, hend, hkind, hrequested⟩ :=
      Input.interrupted_of_truncated (Run.result_eq_error_iff.1 h)
    have hclosing : r.closing = [.classified number (.counted unit key count fragment)] := by
      rw [Run.closing, hend, ← hkind]
    refine ⟨⟨_, number, count, fragment, congrArg (_ ++ ·) hclosing, hrequested⟩, ?_⟩
    have hkeys := Input.filterMap_key?_log (Input.ofBytes origin b)
    rw [hend] at hkeys
    simpa [Ending.handed, hkind, LineKind.key?] using hkeys

/-- The tail of a value stores a key again, and then lacks some of its value. -/
theorem log_accounts_packed :
    (parse [] (Text.encode "k=1\r\na:1c=xk:4c=ab\nq".toList) =
        .ok (Document.ofList [(['a'], ['x']), (['k'], "ab\nq".toList)]) ∧
      let r := (Input.ofBytes [] (Text.encode "k=1\r\na:1c=xk:4c=ab\nq".toList)).run
      (∃ before lines,
        PhysicalLine.LinesOf (Text.encode "k=1\r\na:1c=xk:4c=ab\nq".toList) lines ∧
          r.log = before ++ [.parsed 2 [] lines.length]) ∧
        2 + (r.log.filterMap Event.reassigned?).length = (r.log.filterMap Event.stored?).length ∧
        some 4 = (r.log.filterMap Event.stored?).reverse.lookup ['k']) ∧
    parse [] (Text.encode "k=1\na:1c=xk:9c=ab\nq\n".toList) =
        .error (.truncated ['k'] .characters 6 2) ∧
      let r := (Input.ofBytes [] (Text.encode "k=1\na:1c=xk:9c=ab\nq\n".toList)).run
      (∀ entries name lines, Event.parsed entries name lines ∉ r.log) ∧
        (∃ before number count fragment,
          r.log = before ++ [.classified number (.counted .characters ['k'] count fragment)] ∧
            6 = CountUnit.characters.beyond count fragment) ∧
        (r.log.filterMap Event.classified?).filterMap (fun c => c.2.key?) =
          (r.log.filterMap Event.stored?).map Prod.fst ++ [['k']] := by
  have hok : parse [] (Text.encode "k=1\r\na:1c=xk:4c=ab\nq".toList) =
      .ok (Document.ofList [(['a'], ['x']), (['k'], "ab\nq".toList)]) := by decide +kernel
  have herror : parse [] (Text.encode "k=1\na:1c=xk:9c=ab\nq\n".toList) =
      .error (.truncated ['k'] .characters 6 2) := by decide +kernel
  obtain ⟨hlines, hsize, hlengths⟩ := (log_accounts [] _).1 _ hok
  refine ⟨⟨hok, hlines, hsize, hlengths ['k']⟩, herror, (log_accounts [] _).2.1 _ herror, ?_⟩
  exact (log_accounts [] _).2.2 _ _ _ _ herror

end CountedConfig
