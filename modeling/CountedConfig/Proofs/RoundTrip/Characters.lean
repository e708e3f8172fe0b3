/-
Documents that are written with counted characters.

An entry is written as its key, the number of characters of its value, and the value.
The count runs over the lines of the value and ends inside a line or between two, and
what is left is an empty line (`parseText_writeCharacters`).  A value may hold lines of any
kind, but not a count of lines on its first one, which would take the line.
-/
import CountedConfig.Proofs.Line.Precedence
import CountedConfig.Proofs.Refinement
import CountedConfig.Proofs.Relocation
import CountedConfig.Proofs.Turns
import Mathlib.Data.List.Infix

namespace CountedConfig

/-! ### Characters of a text, taken from its lines -/

namespace PhysicalLine

theorem ofInput_encode_newline (t : Text) :
    ofInput (Text.encode ('\n' :: t)) = .text '\n' [] :: ofInput (Text.encode t) :=
  ofInput_encode_line List.not_mem_nil (by simp) t

/-- Without its first character a text has the same lines, but for that character. -/
theorem ofInput_encode_cons {c : Char} {u : Text} (h : '\r' ∉ c :: u) (t : Text) :
    ∃ rest more, ofInput (Text.encode (c :: (u ++ '\n' :: t))) = .text c rest :: more ∧
      ofInput (Text.encode (u ++ '\n' :: t)) = withRest rest more := by
  -- What follows up to the first newline.
  obtain ⟨l, more, hu, hl, hr⟩ : ∃ l more, u ++ '\n' :: t = l ++ '\n' :: more ∧ '\n' ∉ l ∧
      '\r' ∉ c :: l := by
    by_cases hm : '\n' ∈ u
    · obtain ⟨l, more, rfl, hl⟩ := List.eq_append_cons_of_mem hm
      exact ⟨l, more ++ '\n' :: t, by simp, hl, fun hc => h (List.mem_append_left _ hc)⟩
    · exact ⟨u, t, rfl, hm, h⟩
  have hlast : ∀ l : Text, '\r' ∉ l → l.getLast? ≠ some '\r' := fun l hl he =>
    hl (List.mem_of_getLast? he)
  rw [hu]
  by_cases hc : c = '\n'
  · subst hc
    exact ⟨[], _, ofInput_encode_newline _, rfl⟩
  · have hcl : '\n' ∉ c :: l := by simp [Ne.symm hc, hl]
    refine ⟨l ++ ['\n'], _, ofInput_encode_line hcl (hlast _ hr) more, ?_⟩
    rw [ofInput_encode_line hl (hlast l fun hm => hr (List.mem_cons_of_mem c hm))]
    cases l <;> rfl

end PhysicalLine

namespace Remainder

open PhysicalLine

theorem take_cons {n : Nat} {c : Char} {rest s : Text} {more : List PhysicalLine}
    {injected : Option Text} {r : Remainder}
    (h : take .characters n ⟨withRest rest more, injected⟩ = (.ok s, r)) :
    take .characters (n + 1) ⟨.text c rest :: more, injected⟩ = (.ok (c :: s), r) := by
  have hf : (readable (.text c rest :: more)).flatten = c :: (readable (withRest rest more)).flatten := by
    rw [flatten_readable_withRest]
    rfl
  obtain ⟨hn, hs, hr⟩ := take_eq_ok_iff.1 h
  refine take_eq_ok_iff.2 ⟨?_, ?_, hr⟩
  · simp only [available, hf, List.length_cons] at hn ⊢
    exact Nat.succ_le_succ hn
  · simp only [front, hf, List.take_succ_cons] at hs ⊢
    rw [hs]

/-- The characters of a text in front of a newline are taken as they were written. -/
theorem take_ofInput_encode {s : Text} (h : '\r' ∉ s) (t : Text) (injected : Option Text) :
    take .characters s.length ⟨ofInput (Text.encode (s ++ '\n' :: t)), injected⟩ =
      (.ok s, ⟨ofInput (Text.encode ('\n' :: t)), injected⟩) := by
  induction s with
  | nil => rw [List.length_nil, ← takeRest_self, takeRest_zero]; rfl
  | cons c s ih =>
    obtain ⟨rest, more, hcons, hrest⟩ := ofInput_encode_cons h t
    have hs := ih fun hm => h (List.mem_cons_of_mem c hm)
    rw [hrest] at hs
    rw [List.cons_append, hcons]
    exact take_cons hs

end Remainder

/-! ### The position behind a value -/

namespace Input

theorem origin_nextChars (n : Nat) (i : Input) : (i.nextChars n).2.origin = i.origin := by
  have h := takeChars_relocate i.origin 0 n n i
  rw [relocate_self] at h
  exact congrArg (fun r => r.2.origin) h

theorem origin_nextLine (i : Input) : i.nextLine.2.origin = i.origin := by
  have h := nextLine_relocate i.origin 0 i
  rw [relocate_self] at h
  exact congrArg (fun r => r.2.origin) h

/-- A newline that is left of a line is a blank line, and what follows it is read for
itself. -/
theorem run_newline {i : Input} {t : Text}
    (h : i.remainder = ⟨PhysicalLine.ofInput (Text.encode ('\n' :: t)), none⟩) :
    i.run.entries = (ofBytes i.origin (Text.encode t)).run.entries ∧
      i.run.error? = (ofBytes i.origin (Text.encode t)).run.error? := by
  have hread : Prod.map id remainder i.nextLine =
      (.ok (some ['\n']), ⟨PhysicalLine.ofInput (Text.encode t), none⟩) := by
    rw [remainder_nextLine, h, PhysicalLine.ofInput_encode_newline]
    rfl
  obtain ⟨next, hnext, hrest⟩ := exists_of_remainder hread
  have horigin : next.origin = i.origin := by
    rw [← origin_nextLine i, hnext]
  have hline : i.readLine = (.ok (some ['\n']), next) := by
    have hi : i.injected = none := congrArg Remainder.injected h
    rw [← hnext, nextLine, hi]
  have hpending := pending_readLine hline
  have hstart : next = (ofBytes i.origin (Text.encode t)).relocate i.origin next.lineNumber := by
    obtain ⟨origin, unread, pending, injected, n⟩ := next
    obtain rfl : pending = [] := hpending
    obtain rfl : origin = i.origin := horigin
    simp only [remainder, PhysicalLine.withRest, Remainder.mk.injEq] at hrest
    rw [relocate_ofBytes, hrest.1, hrest.2]
  have hstep : i.step = .turned ⟨['\n'], i.injected.isSome, next.lineNumber, [], none, none⟩ next := by
    have hkind : LineKind.ofLine ['\n'] = .blank := by decide
    simp only [step, hnext, turn, hkind]
  rw [run_eq, hstep, Step.entries_run_turned, Step.error?_run_turned, hstart, run_relocate,
    Run.entries_relocate, Run.error?_relocate]
  exact ⟨rfl, rename_error?_run _⟩

end Input

/-! ### Values -/

/-- No operator of a form stands in a text exactly when none is read at any place of it. -/
theorem not_infix_iff {form : Form} {t : Text} :
    (∀ op written, Operator.Written form op written → ¬ written <:+: t) ↔
      ∀ s ∈ t.tails, form.operator? s = none := by
  constructor
  · intro h s hs
    cases ho : form.operator? s with
    | none => rfl
    | some found =>
      obtain ⟨op, tail⟩ := found
      obtain ⟨written, hw, rfl⟩ := Form.operator?_eq_some_iff.1 ho
      obtain ⟨front, rfl⟩ := (List.mem_tails _ _).1 hs
      exact absurd ⟨front, tail, List.append_assoc front written tail⟩ (h op written hw)
  · rintro h op written hw ⟨front, tail, rfl⟩
    have hnone := h (written ++ tail) ((List.mem_tails _ _).2 ⟨front, by simp⟩)
    rw [Form.operator?_eq_some_iff.2 ⟨written, hw, rfl⟩] at hnone
    exact absurd hnone (by simp)

/-- A value that can be written with the number of its characters. -/
structure CharacterValue (value : Text) : Prop where
  nonempty : value ≠ []
  no_return : '\r' ∉ value
  no_leading : value.head? ≠ some '\n'
  /-- The first line holds no count of lines. -/
  no_count : ∀ op written, Operator.Written (.counted .lines) op written →
    ¬ written <:+: value.takeWhile (· != '\n')

instance (value : Text) : Decidable (CharacterValue value) :=
  decidable_of_iff (value ≠ [] ∧ '\r' ∉ value ∧ value.head? ≠ some '\n' ∧
    ∀ s ∈ (value.takeWhile (· != '\n')).tails, (Form.counted .lines).operator? s = none)
    ⟨fun ⟨h₁, h₂, h₃, h₄⟩ => ⟨h₁, h₂, h₃, not_infix_iff.2 h₄⟩,
      fun ⟨h₁, h₂, h₃, h₄⟩ => ⟨h₁, h₂, h₃, not_infix_iff.1 h₄⟩⟩

/-- An entry with the number of characters of its value, and a newline behind. -/
def writeCharacters (e : Text × Text) : Text :=
  e.1 ++ (countedOperator 'c' e.2.length ++ (e.2 ++ ['\n']))

/-- An entry as it is stored: newlines at the end of a value are not kept. -/
def storedEntry (e : Text × Text) : Text × Text := (e.1, Text.dropTrailing (· == '\n') e.2)

/-- The line breaks of a text without returns are its newlines. -/
theorem Text.dropLineBreaks_of_no_return {t : Text} (h : '\r' ∉ t) :
    dropLineBreaks t = dropTrailing (· == '\n') t := by
  obtain ⟨⟨s, ht, hs⟩, hlast⟩ := strips_dropTrailing (· == '\n') t
  refine dropTrailing_eq_iff.2 ⟨⟨s, ht, fun c hc => ?_⟩, fun c hc => ?_⟩
  · simp [isLineBreak, hs c hc]
  · have hr : c ≠ '\r' := by
      rintro rfl
      exact h (ht ▸ List.mem_append_left s (List.mem_of_getLast? hc))
    have hn : c ≠ '\n' := by simpa using hlast c hc
    simp [isLineBreak, hr, hn]

/-- The first line of a value, which stands behind the operator. -/
structure FirstLine (value first : Text) : Prop where
  nonempty : first ≠ []
  no_newline : '\n' ∉ first
  no_return : '\r' ∉ first
  not_outranked : ¬ Outranked (.counted .characters) first
  split : value = first ∨ ∃ rest, value = first ++ '\n' :: rest

theorem CharacterValue.exists_firstLine {value : Text} (hv : CharacterValue value) :
    ∃ first, FirstLine value first := by
  have hvalue : value.takeWhile (· != '\n') ++ value.dropWhile (· != '\n') = value :=
    List.takeWhile_append_dropWhile
  have hn : '\n' ∉ value.takeWhile (· != '\n') := fun hm => by
    simpa using List.all_eq_true.1 List.all_takeWhile _ hm
  refine ⟨value.takeWhile (· != '\n'), ?_, hn, fun hm => hv.no_return ?_, ?_, ?_⟩
  · obtain ⟨c, more, rfl⟩ := List.exists_cons_of_ne_nil hv.nonempty
    have hc : c ≠ '\n' := by simpa using hv.no_leading
    simp [hc]
  · exact hvalue ▸ List.mem_append_left _ hm
  · rintro ⟨higher, op, piece, blanks, written, rest, hrank, hw, -, -, -, hsplit⟩
    -- Only counts of lines are of a higher rank.
    obtain rfl : higher = .counted .lines := by
      rcases higher with (_ | _) | _ | _ <;> simp [Form.rank] at hrank
      rfl
    exact hv.no_count op written hw ⟨piece ++ blanks, rest, by rw [hsplit]; simp⟩
  · cases hd : value.dropWhile (· != '\n') with
    | nil =>
      rw [hd, List.append_nil] at hvalue
      exact .inl hvalue.symm
    | cons c rest =>
      have hc : c = '\n' := by
        have hnot : (c != '\n') = false :=
          Text.not_head?_dropWhile (s := value) (p := (· != '\n')) (by rw [hd]; rfl)
        simpa using hnot
      rw [hd, hc] at hvalue
      exact .inr ⟨rest, hvalue.symm⟩

/-! ### Reading the values back -/

theorem written_countedOperator {unit : CountUnit} {letter : Char} {count : Nat} (hc : 0 < count)
    (hl : letter ∈ unit.letters) :
    Operator.Written (.counted unit) (.counted unit (min maxCount count))
      (countedOperator letter count) := by
  have hne : Text.ofNat count ≠ [] := Nat.toDigits_ne_nil
  have hdigits : ∀ c ∈ Text.ofNat count, c.isDigit = true := fun c hc =>
    Nat.isDigit_of_mem_toDigits (by decide) (by decide) hc
  have hw := Operator.Written.counted hne hdigits (Text.head?_ofNat hc) hl
  rwa [Text.toNat_ofNat] at hw

theorem LineKind.ofLine_characters {key first : Text} {count : Nat} (hk : PlainKey key)
    (hpos : 0 < count) (hc : count ≤ maxCount) (hn : '\n' ∉ first) (hne : first ≠ [])
    (h : ¬ Outranked (.counted .characters) first) :
    ofLine (key ++ (countedOperator 'c' count ++ first) ++ ['\n']) =
      .counted .characters key count first := by
  have hw : Operator.Written (.counted .characters) (.counted .characters (min maxCount count))
      (countedOperator 'c' count) := written_countedOperator hpos (by decide)
  have hmark : (Form.counted .characters).mark ∉ key := hk.no_colon
  have hread := ofLine_written hk hmark hw hn hne (.counted .characters _ key first) h
  rw [Nat.min_eq_right hc] at hread
  simpa using hread

namespace Input

/-- The value is complete where its last line ends or in front of that place. -/
theorem complete_characters {value first t u : Text} (hv : CharacterValue value)
    (hf : FirstLine value first) (hu : value ++ '\n' :: t = first ++ '\n' :: u) (key origin : Text) :
    ∃ taken next, complete .characters key value.length first
        ⟨origin, PhysicalLine.ofInput (Text.encode u), [], none, 1⟩ =
          (.ok ⟨taken, Text.dropTrailing (· == '\n') value, none⟩, next) ∧
      next.run.entries = (ofBytes origin (Text.encode t)).run.entries ∧
      next.run.error? = (ofBytes origin (Text.encode t)).run.error? := by
  have hstored : Text.dropLineBreaks value = Text.dropTrailing (· == '\n') value :=
    Text.dropLineBreaks_of_no_return hv.no_return
  rcases hf.split with rfl | ⟨rest, rfl⟩
  · obtain rfl : t = u := (List.cons.inj (List.append_cancel_left hu)).2
    refine ⟨[], ⟨origin, PhysicalLine.ofInput (Text.encode t), [], none, 1⟩, ?_, ?_⟩
    · rw [complete, completeCharacters_self, hstored]
    · rw [← relocate_ofBytes origin 1 origin, run_relocate, Run.entries_relocate,
        Run.error?_relocate]
      exact ⟨rfl, rename_error?_run (ofBytes origin (Text.encode t))⟩
  · obtain rfl : rest ++ '\n' :: t = u := by
      rw [List.append_assoc] at hu
      exact (List.cons.inj (List.append_cancel_left hu)).2
    have hlen : (first ++ '\n' :: rest).length - first.length - 1 = rest.length := by
      rw [List.length_append, List.length_cons]
      omega
    have hlt : first.length < (first ++ '\n' :: rest).length := by
      rw [List.length_append, List.length_cons]
      omega
    have hrest : '\r' ∉ rest := fun hm =>
      hv.no_return (List.mem_append_right first (List.mem_cons_of_mem '\n' hm))
    have htake := remainder_next .characters rest.length
      ⟨origin, PhysicalLine.ofInput (Text.encode (rest ++ '\n' :: t)), [], none, 1⟩
    rw [remainder, PhysicalLine.withRest, Remainder.take_ofInput_encode hrest, Input.next] at htake
    obtain ⟨next, hnext, hleft⟩ := exists_of_remainder htake
    have horigin : next.origin = origin := by
      have h := origin_nextChars rest.length
        ⟨origin, PhysicalLine.ofInput (Text.encode (rest ++ '\n' :: t)), [], none, 1⟩
      rw [hnext] at h
      exact h
    refine ⟨rest, next, ?_, ?_⟩
    · rw [complete, completeCharacters_of_gt hlt, hlen, hnext, continued, hstored]
    · have hrun := run_newline hleft
      rwa [horigin] at hrun

/-- An entry is read as a whole, and what follows it is read for itself. -/
theorem run_writeCharacters {e : Text × Text} (hk : PlainKey e.1) (hv : CharacterValue e.2)
    (hc : e.2.length ≤ maxCount) (origin t : Text) :
    (ofBytes origin (Text.encode (writeCharacters e ++ t))).run.entries =
        storedEntry e :: (ofBytes origin (Text.encode t)).run.entries ∧
      (ofBytes origin (Text.encode (writeCharacters e ++ t))).run.error? =
        (ofBytes origin (Text.encode t)).run.error? := by
  obtain ⟨key, value⟩ := e
  obtain ⟨first, hf⟩ := hv.exists_firstLine
  obtain ⟨u, hu⟩ : ∃ u, value ++ '\n' :: t = first ++ '\n' :: u := by
    rcases hf.split with rfl | ⟨rest, rfl⟩
    · exact ⟨t, rfl⟩
    · exact ⟨rest ++ '\n' :: t, by simp⟩
  have hwritten : writeCharacters (key, value) ++ t =
      (key ++ (countedOperator 'c' value.length ++ first)) ++ '\n' :: u := by
    simp only [writeCharacters, List.append_assoc, List.singleton_append, hu]
  have hline : '\n' ∉ key ++ (countedOperator 'c' value.length ++ first) :=
    newline_not_mem_countedLine hk (by decide) _ hf.no_newline
  have hlast : (key ++ (countedOperator 'c' value.length ++ first)).getLast? ≠ some '\r' := by
    rw [getLast?_countedLine key 'c' _ hf.nonempty]
    exact fun he => hf.no_return (List.mem_of_getLast? he)
  have hkind := LineKind.ofLine_characters hk (List.length_pos_iff.2 hv.nonempty) hc hf.no_newline
    hf.nonempty hf.not_outranked
  obtain ⟨taken, next, hcomplete, hentries, herror⟩ := complete_characters hv hf hu key origin
  rw [hwritten, run_line hline hlast, turn, hkind]
  simp only [hcomplete, handBack, Step.entries_run_turned, Step.error?_run_turned, hentries, herror]
  exact ⟨rfl, trivial⟩

end Input

/-- Entries that are written with the number of their characters are read as they were
written, but for newlines at the end of a value; the later one counts of two with one key.
What is written is not so long that a count would be cut. -/
theorem parseText_writeCharacters {entries : List (Text × Text)} (hk : ∀ e ∈ entries, PlainKey e.1)
    (hv : ∀ e ∈ entries, CharacterValue e.2)
    (hsize : (entries.flatMap writeCharacters).length ≤ maxCount) :
    parseText (entries.flatMap writeCharacters) =
      .ok (Document.ofList (entries.map storedEntry)) := by
  have hc : ∀ e ∈ entries, e.2.length ≤ maxCount := by
    intro e he
    have h₁ : e.2.length ≤ (writeCharacters e).length := by
      simp only [writeCharacters, List.length_append]
      omega
    have h₂ : (writeCharacters e).length ≤ (entries.flatMap writeCharacters).length := by
      rw [List.flatMap_def]
      exact (List.sublist_flatten_of_mem (List.mem_map_of_mem he)).length_le
    omega
  obtain ⟨hentries, herror⟩ := Input.run_flatMap storedEntry "<string>".toList fun e he =>
    Input.run_writeCharacters (hk e he) (hv e he) (hc e he) "<string>".toList
  unfold parseText parse Run.result
  rw [herror, hentries]

/-- A value holds a raw operator and a comment, one ends in newlines, one holds a count of
characters behind letters of two bytes, and the first key is stored again. -/
theorem parseText_writeCharacters_stored_again :
    parseText "a:8c=x:=y\n# z\nb:6c=u\n\nv\n\n\n=a:9c=éé :3c=q \na:2c=w\n\n".toList =
      .ok (Document.ofList [(['a'], ['w']), (['b'], "u\n\nv".toList), (['=', 'a'], "éé :3c=q ".toList)]) := by
  have ht : "a:8c=x:=y\n# z\nb:6c=u\n\nv\n\n\n=a:9c=éé :3c=q \na:2c=w\n\n".toList =
      [(['a'], "x:=y\n# z".toList), (['b'], "u\n\nv\n\n".toList), (['=', 'a'], "éé :3c=q ".toList),
        (['a'], "w\n".toList)].flatMap writeCharacters := by decide +kernel
  rw [ht, parseText_writeCharacters (by decide +kernel) (by decide +kernel) (by decide +kernel)]
  decide +kernel

end CountedConfig
