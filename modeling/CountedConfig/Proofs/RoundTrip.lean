/-
Documents that are written with counted lines.

An entry is written as its key, the number of lines of its value, and the value.  The
count alone tells the lines of the value from those that follow, so a value may hold
lines of any kind, and reading gives back the entries that were written
(`parseText_writeLines`).
-/
import CountedConfig.Proofs.Line.Counted
import CountedConfig.Proofs.Line.Newline
import CountedConfig.Proofs.Relocation
import CountedConfig.Proofs.Text.Split
import CountedConfig.Proofs.Turns
import Mathlib.Data.List.Infix

namespace CountedConfig

/-- A value that can be told from the line breaks around it. -/
structure LineValue (value : Text) : Prop where
  nonempty : value ≠ []
  no_leading : value.head? ≠ some '\n'
  no_trailing_newline : value.getLast? ≠ some '\n'
  no_trailing_return : value.getLast? ≠ some '\r'
  no_return : ¬ ['\r', '\n'] <:+: value

instance (value : Text) : Decidable (LineValue value) :=
  decidable_of_iff (value ≠ [] ∧ value.head? ≠ some '\n' ∧ value.getLast? ≠ some '\n' ∧
    value.getLast? ≠ some '\r' ∧ ¬ ['\r', '\n'] <:+: value)
    ⟨fun ⟨h₁, h₂, h₃, h₄, h₅⟩ => ⟨h₁, h₂, h₃, h₄, h₅⟩,
      fun ⟨h₁, h₂, h₃, h₄, h₅⟩ => ⟨h₁, h₂, h₃, h₄, h₅⟩⟩

/-- An entry with the number of lines of its value, and a newline behind. -/
def writeLines (e : Text × Text) : Text :=
  e.1 ++ (countedOperator 'L' (1 + e.2.count '\n') ++ (e.2 ++ ['\n']))

/-! ### The lines of a value -/

theorem LineValue.dropLineBreaks {value : Text} (hv : LineValue value) :
    Text.dropLineBreaks value = value := by
  rw [Text.dropLineBreaks, Text.dropTrailing_eq_rdropWhile, List.rdropWhile_eq_self_iff]
  intro hne
  have hlast := List.getLast?_eq_some_getLast hne
  have h₁ : value.getLast hne ≠ '\n' := fun e => hv.no_trailing_newline (e ▸ hlast)
  have h₂ : value.getLast hne ≠ '\r' := fun e => hv.no_trailing_return (e ▸ hlast)
  simp [Text.isLineBreak, h₁, h₂]

/-- A return at the end of a line of the value would stand before a newline, or at the
end of the value. -/
theorem LineValue.getLast?_line {value l : Text} (hv : LineValue value)
    (hl : l ∈ value.splitOn '\n') : l.getLast? ≠ some '\r' := by
  intro he
  obtain ⟨front, rfl⟩ := List.getLast?_eq_some_iff.1 he
  obtain ⟨before, behind, hb⟩ := Text.infix_ofLines hl
  rw [Text.ofLines_splitOn] at hb
  by_cases hbehind : behind = []
  · have hend : before ++ (front ++ ['\r']) = value := by
      rw [hbehind, List.append_nil, ← List.append_assoc] at hb
      exact List.append_cancel_right hb
    exact hv.no_trailing_return (by rw [← hend]; simp)
  · obtain ⟨more, c, rfl⟩ : ∃ more c, behind = more ++ [c] :=
      ⟨_, _, (List.dropLast_concat_getLast hbehind).symm⟩
    rw [← List.append_assoc] at hb
    have hin := (List.append_inj' hb rfl).1
    exact hv.no_return ⟨before ++ front, more, by rw [← hin]; simp⟩

/-- The lines of a value: the first, which stands behind the operator, and the others. -/
structure ValueLines (value first : Text) (lines : List Text) : Prop where
  joined : first ++ '\n' :: Text.ofLines lines = value ++ ['\n']
  count : value.count '\n' = lines.length
  nonempty : first ≠ []
  no_newline : ∀ l ∈ first :: lines, '\n' ∉ l
  no_return : ∀ l ∈ first :: lines, l.getLast? ≠ some '\r'

theorem LineValue.exists_lines {value : Text} (hv : LineValue value) :
    ∃ first lines, ValueLines value first lines := by
  obtain ⟨first, lines, hs⟩ := List.exists_cons_of_ne_nil (List.splitOn_ne_nil '\n' value)
  have hjoined : first ++ '\n' :: Text.ofLines lines = value ++ ['\n'] := by
    rw [← Text.ofLines_cons, ← hs, Text.ofLines_splitOn]
  have hcount : value.count '\n' = lines.length := by
    have h := length_splitOn '\n' value
    rw [hs, List.length_cons] at h
    omega
  have hfirst : first ≠ [] := by
    intro e
    obtain ⟨c, rest, rfl⟩ := List.exists_cons_of_ne_nil hv.nonempty
    rw [e, List.nil_append, List.cons_append, List.cons.injEq] at hjoined
    exact hv.no_leading (by rw [← hjoined.1]; rfl)
  exact ⟨first, lines, hjoined, hcount, hfirst, fun l hl => not_mem_of_mem_splitOn (hs ▸ hl),
    fun l hl => hv.getLast?_line (hs ▸ hl)⟩

/-! ### Reading the lines back -/

theorem PhysicalLine.ofInput_encode_lines {lines : List Text} (hn : ∀ l ∈ lines, '\n' ∉ l)
    (hr : ∀ l ∈ lines, l.getLast? ≠ some '\r') (t : Text) :
    ofInput (Text.encode (Text.ofLines lines ++ t)) = lines.map ended ++ ofInput (Text.encode t) := by
  induction lines with
  | nil => rfl
  | cons l lines ih =>
    have hrest := ih (fun m hm => hn m (List.mem_cons_of_mem l hm))
      (fun m hm => hr m (List.mem_cons_of_mem l hm))
    rw [Text.ofLines_cons, List.append_assoc, List.cons_append,
      ofInput_encode_line (hn l List.mem_cons_self) (hr l List.mem_cons_self), hrest]
    rfl

namespace Input

theorem takeLines_ended (requested : Nat) (lines : List Text) (origin : Text)
    (more : List PhysicalLine) (n : Nat) :
    takeLines requested lines.length ⟨origin, lines.map .ended ++ more, [], none, n⟩ =
      (.ok (Text.ofLines lines), ⟨origin, more, [], none, n + lines.length⟩) := by
  induction lines generalizing n with
  | nil => rfl
  | cons l lines ih =>
    have hn : n + 1 + lines.length = n + (lines.length + 1) := by omega
    rw [List.length_cons, takeLines, List.map_cons, List.cons_append, readLine_ended]
    simp only [ih, prepend, Text.ofLines_cons, hn]
    simp

/-- The lines of a value are taken from the input and give the value back. -/
theorem complete_lines (key : Text) {value first : Text} {lines : List Text} (hv : LineValue value)
    (hl : ValueLines value first lines) (origin : Text) (more : List PhysicalLine) (n : Nat) :
    complete .lines key (1 + value.count '\n') first
        ⟨origin, lines.map .ended ++ more, [], none, n⟩ =
      (.ok ⟨Text.ofLines lines, value, none⟩, ⟨origin, more, [], none, n + lines.length⟩) := by
  have hvalue : Text.dropLineBreaks (value ++ ['\n']) = value := by
    rw [Text.dropLineBreaks, Text.dropTrailing_eq_rdropWhile,
      List.rdropWhile_concat_pos _ _ _ (by decide)]
    exact hv.dropLineBreaks
  rw [complete, completeLines, hl.count]
  cases lines with
  | nil =>
    obtain rfl : first = value := List.append_cancel_right hl.joined
    rw [if_neg (by simp), hv.dropLineBreaks]
    rfl
  | cons second lines =>
    rw [if_pos (by simp), nextLines, Nat.add_sub_cancel_left, takeLines_ended]
    simp only [continued, hl.joined, hvalue]

/-- An entry is read as a whole, and what follows it is read for itself. -/
theorem run_writeLines {e : Text × Text} (hk : PlainKey e.1) (hv : LineValue e.2)
    (hc : 1 + e.2.count '\n' ≤ maxCount) (origin t : Text) :
    (ofBytes origin (Text.encode (writeLines e ++ t))).run.entries =
        e :: (ofBytes origin (Text.encode t)).run.entries ∧
      (ofBytes origin (Text.encode (writeLines e ++ t))).run.error? =
        (ofBytes origin (Text.encode t)).run.error? := by
  obtain ⟨key, value⟩ := e
  obtain ⟨first, lines, hl⟩ := hv.exists_lines
  have hwritten : writeLines (key, value) ++ t =
      (key ++ (countedOperator 'L' (1 + value.count '\n') ++ first)) ++
        '\n' :: (Text.ofLines lines ++ t) := by
    simp [writeLines, ← hl.joined]
  have hline : '\n' ∉ key ++ (countedOperator 'L' (1 + value.count '\n') ++ first) :=
    newline_not_mem_countedLine hk (by decide) _ (hl.no_newline first List.mem_cons_self)
  have hlast : (key ++ (countedOperator 'L' (1 + value.count '\n') ++ first)).getLast? ≠
      some '\r' := by
    rw [getLast?_countedLine key 'L' _ hl.nonempty]
    exact hl.no_return first List.mem_cons_self
  have hkind : LineKind.ofLine (key ++ (countedOperator 'L' (1 + value.count '\n') ++ first) ++
      ['\n']) = .counted .lines key (1 + value.count '\n') first := by
    rw [LineKind.ofLine_newline, LineKind.ofLine_lines hk (by decide) (by omega)
      (hl.no_newline first List.mem_cons_self) hl.nonempty, Nat.min_eq_right hc]
  have hrest : PhysicalLine.ofInput (Text.encode (Text.ofLines lines ++ t)) =
      lines.map .ended ++ PhysicalLine.ofInput (Text.encode t) :=
    PhysicalLine.ofInput_encode_lines (fun l hm => hl.no_newline l (List.mem_cons_of_mem first hm))
      (fun l hm => hl.no_return l (List.mem_cons_of_mem first hm)) t
  have hcomplete := complete_lines key hv hl origin (PhysicalLine.ofInput (Text.encode t)) 1
  -- What follows is the start of another input, but for the lines before it.
  have hnext : (⟨origin, PhysicalLine.ofInput (Text.encode t), [], none, 1 + lines.length⟩ : Input) =
      (ofBytes origin (Text.encode t)).relocate origin (1 + lines.length) :=
    (relocate_ofBytes origin (1 + lines.length) origin _).symm
  rw [hwritten, run_line hline hlast, hrest, turn, hkind]
  simp only [hcomplete, handBack, Step.entries_run_turned, Step.error?_run_turned]
  rw [hnext, run_relocate, Run.entries_relocate, Run.error?_relocate]
  exact ⟨rfl, rename_error?_run (ofBytes origin (Text.encode t))⟩

theorem run_flatMap_writeLines {entries : List (Text × Text)}
    (hk : ∀ e ∈ entries, PlainKey e.1) (hv : ∀ e ∈ entries, LineValue e.2)
    (hc : ∀ e ∈ entries, 1 + e.2.count '\n' ≤ maxCount) (origin : Text) :
    (ofBytes origin (Text.encode (entries.flatMap writeLines))).run.entries = entries ∧
      (ofBytes origin (Text.encode (entries.flatMap writeLines))).run.error? = none := by
  have hrun := run_flatMap id origin fun e he => run_writeLines (hk e he) (hv e he) (hc e he) origin
  rwa [List.map_id] at hrun

end Input

/-- Entries that are written with the number of their lines are read as they were written,
the later one counting of two with one key.  What is written is not so long that a count
would be cut. -/
theorem parseText_writeLines {entries : List (Text × Text)} (hk : ∀ e ∈ entries, PlainKey e.1)
    (hv : ∀ e ∈ entries, LineValue e.2) (hsize : (entries.flatMap writeLines).length ≤ maxCount) :
    parseText (entries.flatMap writeLines) = .ok (Document.ofList entries) := by
  have hc : ∀ e ∈ entries, 1 + e.2.count '\n' ≤ maxCount := by
    intro e he
    have h₁ : e.2.count '\n' ≤ e.2.length := List.count_le_length
    have h₂ : e.2.length + 1 ≤ (writeLines e).length := by
      simp only [writeLines, List.length_append, List.length_cons, List.length_nil]
      omega
    have h₃ : (writeLines e).length ≤ (entries.flatMap writeLines).length := by
      rw [List.flatMap_def]
      exact (List.sublist_flatten_of_mem (List.mem_map_of_mem he)).length_le
    omega
  obtain ⟨hentries, herror⟩ := Input.run_flatMap_writeLines hk hv hc "<string>".toList
  unfold parseText parse Run.result
  rw [herror, hentries]

/-- Lines of the first value look like a comment, an operator and an assignment, one is
empty, and its key is stored again. -/
theorem parseText_writeLines_stored_again :
    parseText "a:5L=x\n# y\nb:2L=z\n\nc=1\nb:1L==q\na:2L= \nw\n".toList =
      .ok (Document.ofList [(['b'], "=q".toList), (['a'], " \nw".toList)]) := by
  have ht : "a:5L=x\n# y\nb:2L=z\n\nc=1\nb:1L==q\na:2L= \nw\n".toList =
      [(['a'], "x\n# y\nb:2L=z\n\nc=1".toList), (['b'], "=q".toList),
        (['a'], " \nw".toList)].flatMap writeLines := by decide +kernel
  rw [ht, parseText_writeLines (by decide +kernel) (by decide +kernel) (by decide +kernel)]
  decide +kernel

end CountedConfig
