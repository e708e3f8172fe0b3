/-
The shape of what is read and of what is stored.

A newline stands in a logical line only at its end, be the line one of the input, the rest of
one that was half read, or the tail of one that a value ended in.  Every turn leaves it so
(`Input.shape_step`).  What is cut off a line is therefore on one line, and a value of more
lines than one neither begins nor ends with a newline (`parse_shape`).
-/
import CountedConfig.Proofs.Composition
import CountedConfig.Proofs.Line.Classification
import CountedConfig.Proofs.Refinement

namespace CountedConfig

open Text (Visible)

/-! ### Texts -/

namespace Text

/-- A newline stands nowhere but at the end. -/
def SingleLine (t : Text) : Prop := '\n' ∉ t.dropLast

theorem singleLine_of_not_mem {t : Text} (h : '\n' ∉ t) : SingleLine t :=
  fun hm => h (List.dropLast_subset t hm)

theorem singleLine_newline {l : Text} (h : '\n' ∉ l) : SingleLine (l ++ ['\n']) := by
  rwa [SingleLine, List.dropLast_concat]

theorem SingleLine.of_suffix {s t : Text} (h : SingleLine t) (hs : s <:+ t) : SingleLine s := by
  obtain ⟨front, rfl⟩ := hs
  by_cases hne : s = []
  · subst hne
    exact List.not_mem_nil
  · intro hm
    rw [SingleLine, List.dropLast_append_of_ne_nil hne] at h
    exact h (List.mem_append_right front hm)

theorem SingleLine.exists_body {t : Text} (h : SingleLine t) :
    ∃ body, '\n' ∉ body ∧ (t = body ∨ t = body ++ ['\n']) := by
  by_cases hm : '\n' ∈ t
  · have hne : t ≠ [] := List.ne_nil_of_mem hm
    have ht := List.dropLast_concat_getLast hne
    have hlast : t.getLast hne = '\n' := by
      rw [← ht, List.mem_append, List.mem_singleton] at hm
      exact (hm.resolve_left h).symm
    rw [hlast] at ht
    exact ⟨t.dropLast, h, .inr ht.symm⟩
  · exact ⟨t, hm, .inl rfl⟩

/-- Bytes with a newline at most at their end are a line. -/
theorem singleLine_of_decode? {b : Bytes} {t : Text} (hb : (10 : UInt8) ∉ b.dropLast)
    (h : decode? b = some t) : SingleLine t := by
  intro hm
  have hne : t ≠ [] := by
    rintro rfl
    exact List.not_mem_nil hm
  rw [← List.dropLast_concat_getLast hne] at h
  rw [decode?_eq_some_iff.1 h, encode_concat,
    List.dropLast_append_of_ne_nil String.utf8EncodeChar_ne_nil] at hb
  have hnewline : (10 : UInt8) ∈ String.utf8EncodeChar '\n' := by decide
  exact hb (List.mem_append_left _ (List.mem_flatMap.2 ⟨'\n', hm, hnewline⟩))

end Text

open Text (SingleLine)

/-- What can be cut off a line for a key. -/
structure KeyShape (key : Text) : Prop where
  nonempty : key ≠ []
  visible : Visible key
  no_comment : key.head? ≠ some '#'

structure ValueShape (value : Text) : Prop where
  first : value.head? ≠ some '\n'
  last : value.getLast? ≠ some '\n'

structure EntryShape (e : Text × Text) : Prop where
  key : KeyShape e.1
  value : ValueShape e.2

theorem ValueShape.of_not_mem {value : Text} (h : '\n' ∉ value) : ValueShape value :=
  ⟨fun he => h (List.mem_of_head? he), fun he => h (List.mem_of_getLast? he)⟩

theorem ValueShape.dropLineBreaks {t : Text} (h : t.head? ≠ some '\n') :
    ValueShape (Text.dropLineBreaks t) := by
  obtain ⟨⟨s, ht, -⟩, hlast⟩ := Text.strips_dropTrailing Text.isLineBreak t
  refine ⟨fun he => h ?_, fun he => ?_⟩
  · have hv : (Text.dropTrailing Text.isLineBreak t).head? = some '\n' := he
    rw [ht, List.head?_append, hv, Option.some_or]
  · exact absurd (hlast '\n' he) (by decide)

/-! ### The meaning of a line -/

/-- What a meaning holds that a line on its own can have. -/
inductive LineKind.Shape : LineKind → Prop
  | comment : Shape .comment
  | blank : Shape .blank
  | unrecognized : Shape .unrecognized
  | counted {unit : CountUnit} {key fragment : Text} {count : Nat} (hk : KeyShape key)
    (hne : fragment ≠ []) (hn : '\n' ∉ fragment) : Shape (.counted unit key count fragment)
  | plain {form : PlainForm} {key value : Text} (hk : KeyShape key) (hn : '\n' ∉ value) :
    Shape (.plain form key value)

/-- A key that began with the mark of a comment would make the line one. -/
theorem Factors.keyShape {form : Form} {line key tail : Text} {op : Operator}
    (hf : Factors form line key op tail) (hc : ¬ Commented line) : KeyShape key := by
  refine ⟨hf.nonempty, hf.visible, fun he => hc ?_⟩
  obtain ⟨more, rfl⟩ := List.head?_eq_some_iff.1 he
  obtain ⟨before, behind, written, hbefore, -, -, rfl⟩ := hf.split
  exact ⟨before, more ++ (behind ++ (written ++ tail)), hbefore, rfl⟩

theorem Factors.tail_suffix {form : Form} {line key tail : Text} {op : Operator}
    (hf : Factors form line key op tail) : tail <:+ line := by
  obtain ⟨before, behind, written, -, -, -, rfl⟩ := hf.split
  exact ⟨before ++ (key ++ (behind ++ written)), by simp⟩

theorem Unquoted.isInfix {t u : Text} (h : Unquoted t u) : u <:+: t := by
  cases h with
  | alone => exact List.nil_infix
  | pair value => exact ⟨['\''], ['\''], rfl⟩
  | plain => exact List.infix_rfl

theorem Operator.Yields.shape {op : Operator} {key value : Text} {kind : LineKind}
    (h : op.Yields key value kind) (hk : KeyShape key) (hne : value ≠ []) (hn : '\n' ∉ value) :
    kind.Shape := by
  cases h with
  | counted => exact .counted hk hne hn
  | raw h =>
    obtain ⟨⟨s, rfl, -⟩, -⟩ := h
    exact .plain hk fun hm => hn (List.mem_append_left s hm)
  | simple h ht hu =>
    obtain ⟨⟨s, rfl, -⟩, -⟩ := h
    obtain ⟨⟨front, back, rfl, -, -⟩, -, -⟩ := ht
    refine .plain hk fun hm => hn (List.mem_append_left s ?_)
    exact List.mem_append_right front (List.mem_append_left back (hu.isInfix.subset hm))

namespace LineKind

theorem shape_of_means {line : Text} {kind : LineKind} (hn : '\n' ∉ line) (h : Means line kind) :
    kind.Shape := by
  cases h with
  | comment => exact .comment
  | blank => exact .blank
  | unrecognized => exact .unrecognized
  | @assignment form key tail value op _ hc hd hv hy =>
    have htail : '\n' ∉ tail := fun hm => hn (hd.factors.tail_suffix.mem hm)
    obtain rfl : value = tail :=
      eq_of_value?_line htail (value?_eq_some_iff.2 ⟨hd.factors.value, hv⟩)
    obtain ⟨c, hc', -⟩ := hd.factors.value
    exact hy.shape (hd.factors.keyShape hc) (List.ne_nil_of_mem hc') htail

theorem shape_ofLine {line : Text} (h : SingleLine line) : (ofLine line).Shape := by
  obtain ⟨body, hbody, rfl | rfl⟩ := h.exists_body
  · exact shape_of_means hbody (ofLine_eq_iff.1 rfl)
  · rw [ofLine_newline]
    exact shape_of_means hbody (ofLine_eq_iff.1 rfl)

theorem newline_not_mem_fragment {line key fragment : Text} {unit : CountUnit} {count : Nat}
    (hl : SingleLine line) (h : ofLine line = .counted unit key count fragment) :
    '\n' ∉ fragment := by
  have hshape := shape_ofLine hl
  rw [h] at hshape
  cases hshape with
  | counted _ _ hn => exact hn

end LineKind

/-! ### What is left of an input -/

namespace PhysicalLine

def SingleLine : PhysicalLine → Prop
  | .text c rest => Text.SingleLine (c :: rest)
  | .undecodable => True

theorem singleLine_ended {l : Text} (h : '\n' ∉ l) : (ended l).SingleLine := by
  cases l with
  | nil => exact Text.singleLine_newline h
  | cons c l => exact Text.singleLine_newline h

theorem IsLine.singleLine {b : Bytes} {line : PhysicalLine} (hb : (10 : UInt8) ∉ b.dropLast)
    (h : IsLine b line) : line.SingleLine := by
  cases h with
  | undecodable => trivial
  | @returned t h =>
    have hsingle : Text.SingleLine ((t ++ ['\r']) ++ ['\n']) := by
      simpa using Text.singleLine_of_decode? hb h
    rw [Text.SingleLine, List.dropLast_concat] at hsingle
    exact singleLine_ended fun hm => hsingle (List.mem_append_left _ hm)
  | text h => exact Text.singleLine_of_decode? hb h

theorem LinesOf.singleLine {b : Bytes} {lines : List PhysicalLine} (h : LinesOf b lines) :
    ∀ line ∈ lines, line.SingleLine := by
  induction h with
  | nil => exact fun line hm => absurd hm List.not_mem_nil
  | last _ hb h =>
    intro line hm
    obtain rfl := List.mem_singleton.1 hm
    exact h.singleLine fun hx => hb (List.dropLast_subset _ hx)
  | cons hb h _ ih =>
    intro line hm
    rcases List.mem_cons.1 hm with rfl | hm
    · exact h.singleLine (by rwa [List.dropLast_concat])
    · exact ih line hm

theorem singleLine_dropChars {lines : List PhysicalLine} (h : ∀ line ∈ lines, line.SingleLine)
    (n : Nat) : ∀ line ∈ dropChars n lines, line.SingleLine := by
  induction n generalizing lines with
  | zero => rwa [dropChars_zero]
  | succ n ih =>
    match lines with
    | [] => exact h
    | .undecodable :: more => exact h
    | .text c rest :: more =>
      refine ih fun line hm => ?_
      have hmore : ∀ line ∈ more, line.SingleLine := fun line hm => h line (List.mem_cons_of_mem _ hm)
      cases rest with
      | nil => exact hmore line hm
      | cons d rest =>
        rcases List.mem_cons.1 hm with rfl | hm
        · have hfirst : Text.SingleLine (c :: d :: rest) := h _ List.mem_cons_self
          exact hfirst.of_suffix (List.suffix_cons c _)
        · exact hmore line hm

end PhysicalLine

namespace Remainder

/-- The invariant of a reading. -/
structure Shape (r : Remainder) : Prop where
  lines : ∀ line ∈ r.lines, line.SingleLine
  injected : ∀ line, r.injected = some line → '\n' ∉ line

variable {r rest : Remainder}

theorem shape_nextLine {line : Text} (h : r.Shape) (hr : r.nextLine = (.ok (some line), rest)) :
    SingleLine line ∧ rest.Shape := by
  obtain ⟨lines, injected⟩ := r
  have hnone : ∀ line, (none : Option Text) = some line → '\n' ∉ line := fun _ he => nomatch he
  cases injected with
  | some first =>
    simp only [nextLine, Prod.mk.injEq, Except.ok.injEq, Option.some.injEq] at hr
    obtain ⟨rfl, rfl⟩ := hr
    exact ⟨Text.singleLine_of_not_mem (h.injected first rfl), h.lines, hnone⟩
  | none =>
    match lines with
    | [] => simp [nextLine, readLine] at hr
    | .undecodable :: more => simp [nextLine, readLine] at hr
    | .text c t :: more =>
      simp only [nextLine, readLine, Prod.mk.injEq, Except.ok.injEq, Option.some.injEq] at hr
      obtain ⟨rfl, rfl⟩ := hr
      have hlines := List.forall_mem_cons.1 h.lines
      exact ⟨hlines.1, hlines.2, hnone⟩

theorem shape_take {unit : CountUnit} {n : Nat} {t : Text} (h : r.Shape)
    (hr : r.take unit n = (.ok t, rest)) : rest.Shape := by
  obtain ⟨-, -, rfl⟩ := take_eq_ok_iff.1 hr
  refine ⟨?_, h.injected⟩
  cases unit with
  | lines => exact fun line hm => h.lines line (List.mem_of_mem_drop hm)
  | characters => exact PhysicalLine.singleLine_dropChars h.lines n

end Remainder

/-! ### Values -/

structure Completion.Shape (c : Completion) : Prop where
  value : ValueShape c.value
  leftover : ∀ tail, c.leftover = some tail → '\n' ∉ tail

namespace Input

variable {i rest : Input} {unit : CountUnit} {key fragment : Text}

theorem shape_next {n : Nat} {t : Text} (hi : i.remainder.Shape)
    (h : i.next unit n = (.ok t, rest)) : rest.remainder.Shape := by
  have hr := remainder_next unit n i
  rw [h] at hr
  exact Remainder.shape_take hi hr.symm

/-- A value that is taken to the end of a line begins as its fragment does. -/
theorem shape_whole (hne : fragment ≠ []) (hn : '\n' ∉ fragment) (taken more : Text) :
    (Completion.mk taken (Text.dropLineBreaks (fragment ++ more)) none).Shape := by
  refine ⟨ValueShape.dropLineBreaks fun he => hn ?_, fun _ he => nomatch he⟩
  obtain ⟨c, rest, rfl⟩ := List.exists_cons_of_ne_nil hne
  exact List.mem_of_head? (by simpa using he)

theorem shape_continued {u : CountUnit} {n : Nat} {c : Completion} (hne : fragment ≠ []) (hn : '\n' ∉ fragment)
    (hi : i.remainder.Shape) (h : continued key fragment i (i.next u n) = (.ok c, rest)) :
    c.Shape ∧ rest.remainder.Shape := by
  obtain ⟨more, hmore, rfl⟩ := continued_eq_ok h
  exact ⟨shape_whole hne hn more ('\n' :: more), shape_next hi hmore⟩

theorem shape_complete {count : Nat} {c : Completion} (hne : fragment ≠ []) (hn : '\n' ∉ fragment)
    (hi : i.remainder.Shape) (h : complete unit key count fragment i = (.ok c, rest)) :
    c.Shape ∧ rest.remainder.Shape := by
  have hwhole : (Completion.mk [] (Text.dropLineBreaks fragment) none).Shape := by
    have hs := shape_whole hne hn [] []
    rwa [List.append_nil] at hs
  cases unit with
  | lines =>
    rw [complete] at h
    by_cases hc : 1 < count
    · rw [completeLines_of_gt hc] at h
      exact shape_continued (u := .lines) hne hn hi h
    · rw [completeLines_of_le (Nat.le_of_not_lt hc)] at h
      cases h
      exact ⟨hwhole, hi⟩
  | characters =>
    rw [complete] at h
    rcases Nat.lt_trichotomy fragment.length count with hc | rfl | hc
    · rw [completeCharacters_of_gt hc] at h
      exact shape_continued (u := .characters) hne hn hi h
    · rw [completeCharacters_self] at h
      cases h
      exact ⟨hwhole, hi⟩
    · -- The value ends inside the line, and what is cut there has no newline.
      rw [completeCharacters_of_lt hc] at h
      cases h
      refine ⟨⟨ValueShape.of_not_mem fun hm => hn (List.mem_of_mem_take hm), ?_⟩, hi⟩
      rintro tail ⟨⟩
      exact fun hm => hn (List.mem_of_mem_drop hm)

end Input

/-! ### Turns -/

structure Turn.Shape (t : Turn) : Prop where
  line : SingleLine t.line
  leftover : ∀ tail, t.leftover = some tail → '\n' ∉ tail
  entry : ∀ e, t.entry = some e → EntryShape e

/-- The line that a value was not completed for. -/
def Ending.lines : Ending → List Text
  | .interrupted line _ _ => [line]
  | _ => []

def Step.Shape : Step → Prop
  | .ended ending _ => ∀ line ∈ ending.lines, SingleLine line
  | .turned t rest => t.Shape ∧ rest.remainder.Shape

namespace Input

theorem shape_handBack {leftover : Option Text} {i : Input}
    (hl : ∀ tail, leftover = some tail → '\n' ∉ tail) (hi : i.remainder.Shape) :
    (i.handBack leftover).remainder.Shape := by
  cases leftover with
  | none => exact hi
  | some tail => exact ⟨hi.lines, fun line he => Option.some.inj he ▸ hl tail rfl⟩

theorem shape_turn {line : Text} {i : Input} (injected : Bool) (hl : SingleLine line)
    (hi : i.remainder.Shape) : (turn line injected i).Shape := by
  have hkind := LineKind.shape_ofLine hl
  have hwhole : ∀ t : Turn, t.line = line → t.leftover = none →
      (∀ e, t.entry = some e → EntryShape e) → t.Shape := by
    intro t ht hleft hentry
    refine ⟨ht ▸ hl, fun tail he => ?_, hentry⟩
    simp [hleft] at he
  unfold turn
  split
  · rename_i unit key count fragment hk
    rw [hk] at hkind
    cases hkind with
    | counted hkey hne hn =>
      split
      · rename_i c rest hc
        obtain ⟨hshape, hrest⟩ := shape_complete hne hn hi hc
        refine ⟨⟨hl, hshape.leftover, ?_⟩, shape_handBack hshape.leftover hrest⟩
        rintro e ⟨⟩
        exact ⟨hkey, hshape.value⟩
      · exact fun l hm => List.mem_singleton.1 hm ▸ hl
  · rename_i form key value hk
    rw [hk] at hkind
    cases hkind with
    | plain hkey hn =>
      refine ⟨hwhole _ rfl rfl ?_, hi⟩
      rintro e ⟨⟩
      exact ⟨hkey, .of_not_mem hn⟩
  all_goals exact ⟨hwhole _ rfl rfl (by simp), hi⟩

theorem shape_step {i : Input} (hi : i.remainder.Shape) : i.step.Shape := by
  have hread := remainder_nextLine i
  unfold step
  split
  · rename_i line rest h
    rw [h] at hread
    obtain ⟨hl, hrest⟩ := Remainder.shape_nextLine hi hread.symm
    exact shape_turn _ hl hrest
  · exact fun line hm => absurd hm List.not_mem_nil
  · exact fun line hm => absurd hm List.not_mem_nil

end Input

/-! ### Readings -/

namespace Run

/-- The lines that were read, the one behind the last turn among them. -/
def lines (r : Run) : List Text := r.turns.map Turn.line ++ r.ending.lines

structure Shape (r : Run) : Prop where
  line : ∀ line ∈ r.lines, SingleLine line
  fragment : ∀ line ∈ r.lines, ∀ unit key count fragment,
    LineKind.ofLine line = .counted unit key count fragment → '\n' ∉ fragment
  leftover : ∀ t ∈ r.turns, ∀ tail, t.leftover = some tail → '\n' ∉ tail
  entry : ∀ e ∈ r.entries, EntryShape e

theorem shape_of_turns {r : Run} (ht : ∀ t ∈ r.turns, t.Shape)
    (he : ∀ line ∈ r.ending.lines, SingleLine line) : r.Shape := by
  have hline : ∀ line ∈ r.lines, SingleLine line := by
    intro line hm
    rcases List.mem_append.1 hm with hm | hm
    · obtain ⟨t, htm, rfl⟩ := List.mem_map.1 hm
      exact (ht t htm).line
    · exact he line hm
  refine ⟨hline, fun line hm _ _ _ _ h => LineKind.newline_not_mem_fragment (hline line hm) h,
    fun t hm => (ht t hm).leftover, fun e hm => ?_⟩
  obtain ⟨t, htm, hentry⟩ := List.mem_filterMap.1 hm
  exact (ht t htm).entry e hentry

end Run

namespace Input

theorem shape_turns_run {i : Input} (hi : i.remainder.Shape) :
    (∀ t ∈ i.run.turns, t.Shape) ∧ ∀ line ∈ i.run.ending.lines, SingleLine line := by
  induction i using run.induct with
  | case1 i ending rest hs =>
    have hstep := shape_step hi
    rw [hs] at hstep
    rw [run_eq, hs]
    exact ⟨fun t hm => absurd hm List.not_mem_nil, hstep⟩
  | case2 i t next hs ih =>
    have hstep := shape_step hi
    rw [hs] at hstep
    obtain ⟨hturns, hending⟩ := ih hstep.2
    rw [run_eq, hs]
    exact ⟨List.forall_mem_cons.2 ⟨hstep.1, hturns⟩, hending⟩

theorem shape_run_ofBytes (origin : Text) (b : Bytes) : (ofBytes origin b).run.Shape := by
  have hstart : (ofBytes origin b).remainder.Shape :=
    ⟨(PhysicalLine.linesOf_ofInput b).singleLine, fun _ he => nomatch he⟩
  obtain ⟨hturns, hending⟩ := shape_turns_run hstart
  exact Run.shape_of_turns hturns hending

end Input

theorem entryShape_of_parse {origin : Text} {b : Bytes} {d : Document}
    (h : parse origin b = .ok d) : ∀ e ∈ d.entries, EntryShape e := by
  obtain ⟨-, rfl⟩ := Run.result_eq_ok_iff.1 h
  exact fun e he => (Input.shape_run_ofBytes origin b).entry e (Document.mem_entries_ofList he)

/-- The keys of a document are visible and begin no comment, its values neither begin nor end
with a newline, and no line that was read for it, or left of one, goes on behind a newline. -/
theorem parse_shape {origin : Text} {b : Bytes} {d : Document} (h : parse origin b = .ok d) :
    (∀ e ∈ d.entries, EntryShape e) ∧ (Input.ofBytes origin b).run.Shape := by
  have hrun := Input.shape_run_ofBytes origin b
  obtain ⟨-, rfl⟩ := Run.result_eq_ok_iff.1 h
  exact ⟨fun e he => hrun.entry e (Document.mem_entries_ofList he), hrun⟩

/-- Two values end inside the first line, the tail of the second goes on over three lines and
ends inside the last, and the rest of that is a line of its own. -/
theorem parse_shape_packed :
    parse [] (Text.encode "a:1c=xb:2C=yzc:5c=p\n\n\nd:1c=e=w\n q:2L=u\r\n\n# k=1\nv=' x'".toList) =
        .ok (Document.ofList [(['a'], ['x']), (['b'], ['y', 'z']), (['c'], "p\n\n\nd".toList),
          (":1c".toList, "e=w".toList), (['q'], ['u']), (['v'], [' ', 'x'])]) ∧
      (∀ e ∈ (Document.ofList [(['a'], ['x']), (['b'], ['y', 'z']), (['c'], "p\n\n\nd".toList),
          (":1c".toList, "e=w".toList), (['q'], ['u']), (['v'], [' ', 'x'])]).entries,
        EntryShape e) ∧
      (Input.ofBytes [] (Text.encode
        "a:1c=xb:2C=yzc:5c=p\n\n\nd:1c=e=w\n q:2L=u\r\n\n# k=1\nv=' x'".toList)).run.Shape := by
  have h : parse [] (Text.encode
        "a:1c=xb:2C=yzc:5c=p\n\n\nd:1c=e=w\n q:2L=u\r\n\n# k=1\nv=' x'".toList) =
      .ok (Document.ofList [(['a'], ['x']), (['b'], ['y', 'z']), (['c'], "p\n\n\nd".toList),
        (":1c".toList, "e=w".toList), (['q'], ['u']), (['v'], [' ', 'x'])]) := by decide +kernel
  exact ⟨h, parse_shape h⟩

end CountedConfig
