/-
Which operator of a line counts.

A value may hold operators itself, and a key may hold any visible character.  A form of a
higher rank therefore takes the line when one of its operators stands behind the first
piece of the value, with the operator that was meant as a part of the key.  Otherwise the
line is read as it was written (`ofLine_written_iff`).
-/
import CountedConfig.Proofs.Line.Classification

namespace CountedConfig

open Text (Blank Visible)

/-! ### Operators as they are written -/

theorem Text.isBlank_of_isDigit {c : Char} (h : c.isDigit = true) : isBlank c = false := by
  have hn : 48 ≤ c.toNat ∧ c.toNat ≤ 57 := Char.isDigit_iff_toNat.1 h
  simp only [isBlank, blankRuns, inRuns, Bool.and_eq_false_iff, Bool.or_eq_false_iff,
    decide_eq_false_iff_not]
  omega

theorem CountUnit.mem_letters_iff {unit : CountUnit} {c : Char} :
    c ∈ unit.letters ↔ (unit = .lines ∧ (c = 'l' ∨ c = 'L')) ∨
      (unit = .characters ∧ (c = 'c' ∨ c = 'C')) := by
  cases unit <;> simp [letters]

theorem CountUnit.isBlank_of_mem_letters {unit : CountUnit} {c : Char} (h : c ∈ unit.letters) :
    Text.isBlank c = false := by
  rcases mem_letters_iff.1 h with ⟨-, rfl | rfl⟩ | ⟨-, rfl | rfl⟩
  · decide
  · decide
  · decide
  · decide

theorem CountUnit.eq_of_mem_letters {unit unit' : CountUnit} {c : Char} (h : c ∈ unit.letters)
    (h' : c ∈ unit'.letters) : unit = unit' := by
  rcases mem_letters_iff.1 h with ⟨rfl, hc⟩ | ⟨rfl, hc⟩
  · rcases mem_letters_iff.1 h' with ⟨rfl, -⟩ | ⟨rfl, hc'⟩
    · rfl
    · rcases hc with rfl | rfl <;> simp at hc'
  · rcases mem_letters_iff.1 h' with ⟨rfl, hc'⟩ | ⟨rfl, -⟩
    · rcases hc with rfl | rfl <;> simp at hc'
    · rfl

/-- The character that the operators of a form begin with. -/
def Form.mark : Form → Char
  | .simple => '='
  | _ => ':'

theorem Form.isBlank_mark (form : Form) : Text.isBlank form.mark = false := by
  rcases form with _ | _ | _
  · exact (by decide : Text.isBlank ':' = false)
  · decide
  · decide

theorem Form.mark_of_rank_lt {higher form : Form} (h : higher.rank < form.rank) :
    higher.mark = ':' := by
  rcases higher with _ | _ | _
  · rfl
  · rfl
  · rcases form with (_ | _) | _ | _ <;> simp [rank] at h

namespace Operator.Written

variable {form higher : Form} {op op' : Operator} {written written' : Text}

theorem exists_mark (h : Written form op written) : ∃ more, written = form.mark :: more := by
  cases h <;> exact ⟨_, rfl⟩

theorem of_mem_tail (h : Written form op written) {c : Char} (hc : c ∈ written.tail) :
    c.isDigit = true ∨ c = '=' ∨ ∃ unit : CountUnit, c ∈ unit.letters := by
  cases h with
  | @counted unit digits letter hne hdigits hzero hletter =>
    rcases List.mem_append.1 hc with hc | hc
    · exact .inl (hdigits c hc)
    · simp only [List.mem_cons, List.not_mem_nil, or_false] at hc
      rcases hc with rfl | rfl
      · exact .inr (.inr ⟨unit, hletter⟩)
      · exact .inr (.inl rfl)
  | raw => exact .inr (.inl (List.mem_singleton.1 hc))
  | simple => exact absurd hc List.not_mem_nil

theorem visible (h : Written form op written) : Visible written := by
  obtain ⟨more, hmore⟩ := h.exists_mark
  intro c hc
  rw [hmore] at hc
  rcases List.mem_cons.1 hc with rfl | hc
  · exact form.isBlank_mark
  · rcases h.of_mem_tail (by rwa [hmore]) with hd | rfl | ⟨unit, hl⟩
    · exact Text.isBlank_of_isDigit hd
    · decide
    · exact CountUnit.isBlank_of_mem_letters hl

/-- No operator begins inside another one. -/
theorem colon_not_mem_tail (h : Written form op written) : ':' ∉ written.tail := by
  intro hc
  rcases h.of_mem_tail hc with hd | he | ⟨unit, hl⟩
  · exact absurd hd (by decide)
  · exact absurd he (by decide)
  · cases unit <;> exact absurd hl (by decide)

/-- No operator of the counted forms is one of the others: digits follow the colon. -/
theorem not_counted_raw {unit : CountUnit} (h : Written (.counted unit) op written)
    (h' : Written .raw op' written') (t t' : Text) : written ++ t ≠ written' ++ t' := by
  cases h with
  | @counted _ digits letter hne hdigits hzero hletter =>
    cases h'
    obtain ⟨d, more, rfl⟩ := List.exists_cons_of_ne_nil hne
    intro he
    have hd : d = '=' := by simpa using congrArg (·.tail.head?) he
    exact absurd (hdigits d List.mem_cons_self) (by rw [hd]; decide)

/-- The letter stands behind the longest run of digits. -/
theorem unit_unique {unit unit' : CountUnit} (h : Written (.counted unit) op written)
    (h' : Written (.counted unit') op' written') {t t' : Text} (he : written ++ t = written' ++ t') :
    unit = unit' := by
  cases h with
  | @counted _ digits letter hne hdigits hzero hletter =>
    cases h' with
    | @counted _ digits' letter' hne' hdigits' hzero' hletter' =>
      have hrest : digits ++ letter :: '=' :: t = digits' ++ letter' :: '=' :: t' := by
        simpa using he
      have hstop : ∀ {unit : CountUnit} {letter : Char} (s : Text), letter ∈ unit.letters →
          ∀ c, (letter :: '=' :: s).head? = some c → c.isDigit = false := fun s hl c hc =>
        Option.some.inj hc ▸ CountUnit.isDigit_eq_false (CountUnit.isLetter_iff.2 hl)
      have htake := congrArg (List.takeWhile Char.isDigit) hrest
      rw [Text.takeWhile_run hdigits (hstop t hletter),
        Text.takeWhile_run hdigits' (hstop t' hletter')] at htake
      subst htake
      have hl : letter = letter' := (List.cons.inj (List.append_cancel_left hrest)).1
      exact CountUnit.eq_of_mem_letters hletter (hl ▸ hletter')

/-- What stands at the front of a text is an operator of one form only. -/
theorem form_unique (h : Written form op written) (h' : Written higher op' written') {t t' : Text}
    (he : written ++ t = written' ++ t') : form = higher := by
  have hmark : form.mark = higher.mark := by
    obtain ⟨more, rfl⟩ := h.exists_mark
    obtain ⟨more', rfl⟩ := h'.exists_mark
    exact (List.cons.inj he).1
  rcases form with unit | _ | _ <;> rcases higher with unit' | _ | _
  · rw [unit_unique h h' he]
  · exact absurd he (not_counted_raw h h' t t')
  · exact absurd hmark (by simp [Form.mark])
  · exact absurd he.symm (not_counted_raw h' h t' t)
  · rfl
  · exact absurd hmark (by simp [Form.mark])
  · exact absurd hmark (by simp [Form.mark])
  · exact absurd hmark (by simp [Form.mark])
  · rfl

end Operator.Written

/-! ### Ways to cut a line behind its key -/

theorem Text.eq_nil_of_blank_append {w t : Text} {c : Char} (hw : Blank w)
    (h : (w ++ t).head? = some c) (hc : isBlank c = false) : w = [] := by
  cases w with
  | nil => rfl
  | cons d w =>
    obtain rfl : d = c := Option.some.inj h
    have hd := hw d List.mem_cons_self
    simp [hc] at hd

/-- A line that begins with a key is cut behind that key, unless the operator of the cut can
begin inside it. -/
theorem Factors.behind_key {form : Form} {key key' t tail : Text} {op : Operator} (hk : PlainKey key)
    (hmark : form.mark ∉ key) (hf : Factors form (key ++ t) key' op tail) :
    ∃ piece blanks written, Visible piece ∧ Blank blanks ∧ Operator.Written form op written ∧
      key' = key ++ piece ∧ t = piece ++ (blanks ++ (written ++ tail)) := by
  obtain ⟨-, hvisible, ⟨before, blanks, written, hbefore, hblanks, hw, hline⟩, -⟩ := hf
  obtain ⟨c, more, hkey⟩ := List.exists_cons_of_ne_nil hk.nonempty
  obtain rfl : before = [] := Text.eq_nil_of_blank_append hbefore (c := c)
    (by rw [← hline, hkey]; rfl) (hk.visible c (hkey ▸ List.mem_cons_self))
  rw [List.nil_append] at hline
  rcases List.append_eq_append_iff.1 hline with ⟨piece, hkey', ht⟩ | ⟨lost, hlost, hrest⟩
  · exact ⟨piece, blanks, written, fun d hd => hvisible d (hkey' ▸ List.mem_append_right key hd),
      hblanks, hw, hkey', ht⟩
  · cases lost with
    | nil =>
      rw [List.append_nil] at hlost
      exact ⟨[], blanks, written, fun d hd => absurd hd List.not_mem_nil, hblanks, hw,
        by rw [hlost, List.append_nil], hrest.symm⟩
    | cons d lost =>
      -- The operator of the cut would begin inside the key.
      have hd : d ∈ key := hlost ▸ List.mem_append_right key' List.mem_cons_self
      obtain rfl : blanks = [] := Text.eq_nil_of_blank_append hblanks (c := d)
        (by rw [hrest]; rfl) (hk.visible d hd)
      obtain ⟨more, rfl⟩ := hw.exists_mark
      have hm : form.mark = d := (List.cons.inj hrest).1
      exact absurd (hm ▸ hd) hmark

/-- A cut behind an operator that was written, at an operator of a higher rank, is a cut
behind a piece of what follows. -/
theorem Operator.Written.behind {form higher : Form} {op op' : Operator}
    {written written' rest piece blanks tail : Text} (hw : Operator.Written form op written)
    (hw' : Operator.Written higher op' written') (hrank : higher.rank < form.rank)
    (hpiece : Visible piece) (hblanks : Blank blanks)
    (h : written ++ rest = piece ++ (blanks ++ (written' ++ tail))) :
    ∃ more, Visible more ∧ rest = more ++ (blanks ++ (written' ++ tail)) := by
  rcases List.append_eq_append_iff.1 h with ⟨more, rfl, hrest⟩ | ⟨lost, hlost, hrest⟩
  · exact ⟨more, fun d hd => hpiece d (List.mem_append_right written hd), hrest⟩
  · cases lost with
    | nil => exact ⟨[], fun d hd => absurd hd List.not_mem_nil, hrest.symm⟩
    | cons d lost =>
      have hd : d ∈ written := hlost ▸ List.mem_append_right piece List.mem_cons_self
      obtain rfl : blanks = [] := Text.eq_nil_of_blank_append hblanks (c := d)
        (by rw [hrest]; rfl) (hw.visible d hd)
      rw [List.nil_append] at hrest h
      -- The higher operator begins with a colon, which is the first character of the other.
      have hcolon : d = ':' := by
        obtain ⟨more, rfl⟩ := hw'.exists_mark
        rw [← Form.mark_of_rank_lt hrank]
        exact (List.cons.inj hrest).1.symm
      cases piece with
      | nil =>
        have hform := hw.form_unique hw' h
        exact absurd hrank (hform ▸ Nat.lt_irrefl _)
      | cons e piece =>
        refine absurd ?_ hw.colon_not_mem_tail
        rw [hlost, ← hcolon]
        exact List.mem_append_right piece List.mem_cons_self

/-! ### Values that bring an operator -/

/-- Behind the first piece of the value stands an operator of a higher rank, with something
behind it. -/
def Outranked (form : Form) (value : Text) : Prop :=
  ∃ higher op piece blanks written rest, Form.rank higher < form.rank ∧
    Operator.Written higher op written ∧ Visible piece ∧ Blank blanks ∧ rest ≠ [] ∧
    value = piece ++ (blanks ++ (written ++ rest))

section

variable {form higher : Form} {op op' : Operator} {key written value key' tail : Text}

theorem outranked_of_factors (hk : PlainKey key) (hw : Operator.Written form op written)
    (hrank : higher.rank < form.rank)
    (hf : Factors higher (key ++ (written ++ (value ++ ['\n']))) key' op' tail) :
    Outranked form value := by
  have hmark : higher.mark ∉ key := Form.mark_of_rank_lt hrank ▸ hk.no_colon
  obtain ⟨piece, blanks, written', hpiece, hblanks, hw', -, ht⟩ := hf.behind_key hk hmark
  obtain ⟨more, hmore, hvalue⟩ := hw.behind hw' hrank hpiece hblanks ht
  obtain ⟨c, hc, hne⟩ := hf.value
  -- The newline of the line ends the tail, and is not all of it.
  obtain ⟨rest, d, rfl⟩ : ∃ rest d, tail = rest ++ [d] :=
    ⟨_, _, (List.dropLast_concat_getLast (List.ne_nil_of_mem hc)).symm⟩
  have hsplit : value ++ ['\n'] = more ++ (blanks ++ (written' ++ rest)) ++ [d] := by
    rw [hvalue]
    simp
  obtain ⟨hfront, hd⟩ := List.append_inj' hsplit rfl
  obtain rfl := (List.cons.inj hd).1
  refine ⟨higher, op', more, blanks, written', rest, hrank, hw', hmore, hblanks, ?_, hfront⟩
  rintro rfl
  exact hne (by simpa using hc)

theorem exists_factors_of_outranked (hk : PlainKey key) (hw : Operator.Written form op written)
    (hn : '\n' ∉ value) (h : Outranked form value) :
    ∃ higher key' op' tail, Form.rank higher < form.rank ∧
      Factors higher (key ++ (written ++ (value ++ ['\n']))) key' op' tail := by
  obtain ⟨higher, op', piece, blanks, written', rest, hrank, hw', hpiece, hblanks, hrest, rfl⟩ := h
  obtain ⟨c, more, rfl⟩ := List.exists_cons_of_ne_nil hrest
  refine ⟨higher, key ++ (written ++ piece), op', c :: more ++ ['\n'], hrank, ?_, ?_, ?_, ?_⟩
  · simp [hk.nonempty]
  · intro d hd
    rcases List.mem_append.1 hd with hd | hd
    · exact hk.visible d hd
    · rcases List.mem_append.1 hd with hd | hd
      · exact hw.visible d hd
      · exact hpiece d hd
  · exact ⟨[], blanks, written', fun d hd => absurd hd List.not_mem_nil, hblanks, hw', by simp⟩
  · refine ⟨c, List.mem_cons_self, ?_⟩
    rintro rfl
    exact hn (by simp)

theorem factors_written (hk : PlainKey key) (hw : Operator.Written form op written)
    (hn : '\n' ∉ value) (hne : value ≠ []) :
    Factors form (key ++ (written ++ (value ++ ['\n']))) key op (value ++ ['\n']) := by
  obtain ⟨c, more, rfl⟩ := List.exists_cons_of_ne_nil hne
  refine ⟨hk.nonempty, hk.visible, ⟨[], [], written, ?_, ?_, hw, rfl⟩, c, List.mem_cons_self, ?_⟩
  · exact fun d hd => absurd hd List.not_mem_nil
  · exact fun d hd => absurd hd List.not_mem_nil
  · rintro rfl
    exact hn List.mem_cons_self

/-- A line is cut at the operator that was written if its value brings no higher one. -/
theorem decides_written (hk : PlainKey key) (hmark : form.mark ∉ key)
    (hw : Operator.Written form op written) (hn : '\n' ∉ value) (hne : value ≠ [])
    (h : ¬ Outranked form value) :
    Decides form (key ++ (written ++ (value ++ ['\n']))) key op (value ++ ['\n']) := by
  refine ⟨factors_written hk hw hn hne, fun higher key' op' tail hf => ?_,
    fun key' op' tail hf => ?_⟩
  · exact Nat.le_of_not_lt fun hrank => h (outranked_of_factors hk hw hrank hf)
  · obtain ⟨piece, _, _, -, -, -, rfl, -⟩ := hf.behind_key hk hmark
    rw [List.length_append]
    exact Nat.le_add_right _ _

end

/-! ### Lines as they are written -/

theorem not_commented_of_key {key : Text} (hk : PlainKey key) (t : Text) : ¬ Commented (key ++ t) := by
  obtain ⟨c, more, rfl⟩ := List.exists_cons_of_ne_nil hk.nonempty
  rw [← commented_iff, List.cons_append, Text.dropBlanks_cons (hk.visible c List.mem_cons_self)]
  simpa using hk.no_comment

theorem captured_line {value : Text} (hn : '\n' ∉ value) (hne : value ≠ []) :
    Captured (value ++ ['\n']) value :=
  (value?_eq_some_iff.1 ((value?_newline value).trans (value?_line hn hne))).2

def Operator.form : Operator → Form
  | .counted unit _ => .counted unit
  | .raw => .raw
  | .simple => .simple

theorem Operator.Written.form_eq {form : Form} {op : Operator} {written : Text}
    (h : Written form op written) : op.form = form := by
  cases h <;> rfl

/-- An assignment tells the form that it was read by. -/
theorem Operator.Yields.form_eq {op op' : Operator} {key key' value value' : Text} {kind : LineKind}
    (h : op.Yields key value kind) (h' : op'.Yields key' value' kind) : op.form = op'.form := by
  cases h <;> cases h' <;> rfl

/-- A key that can stand in front of any operator. -/
structure BareKey (key : Text) : Prop extends PlainKey key where
  no_equals : '=' ∉ key

theorem BareKey.mark_not_mem {key : Text} (hk : BareKey key) (form : Form) : form.mark ∉ key := by
  rcases form with _ | _ | _
  · exact hk.no_colon
  · exact hk.no_colon
  · exact hk.no_equals

namespace LineKind

theorem ofLine_written {form : Form} {op : Operator} {key written value : Text} {kind : LineKind}
    (hk : PlainKey key) (hmark : form.mark ∉ key) (hw : Operator.Written form op written)
    (hn : '\n' ∉ value) (hne : value ≠ []) (hy : op.Yields key value kind)
    (h : ¬ Outranked form value) : ofLine (key ++ (written ++ (value ++ ['\n']))) = kind :=
  ofLine_eq_iff.2 (.assignment (not_commented_of_key hk _) (decides_written hk hmark hw hn hne h)
    (captured_line hn hne) hy)

theorem not_outranked_of_ofLine {form : Form} {op : Operator} {key written value : Text}
    {kind : LineKind} (hk : PlainKey key) (hw : Operator.Written form op written) (hn : '\n' ∉ value)
    (hy : op.Yields key value kind) (h : ofLine (key ++ (written ++ (value ++ ['\n']))) = kind) :
    ¬ Outranked form value := by
  intro hout
  obtain ⟨higher, key', op', tail, hrank, hf⟩ := exists_factors_of_outranked hk hw hn hout
  cases ofLine_eq_iff.1 h with
  | comment => cases hy
  | blank => cases hy
  | unrecognized => cases hy
  | @assignment found _ _ _ opFound _ _ hd _ hyFound =>
    -- The form that decides is the one that was written, and it is of the highest rank.
    obtain ⟨_, _, _, _, _, hwFound, _⟩ := hd.factors.split
    have hform : found = form := by rw [← hwFound.form_eq, ← hw.form_eq, hyFound.form_eq hy]
    have hfirst := hd.first higher key' op' tail hf
    rw [hform] at hfirst
    exact Nat.not_le_of_lt hrank hfirst

/-- What is written as a key, an operator and a value is read as that unless the value brings
an operator of a higher rank.  A count of lines has the highest. -/
theorem ofLine_written_iff {form : Form} {op : Operator} {key written value : Text} {kind : LineKind}
    (hk : BareKey key) (hw : Operator.Written form op written) (hn : '\n' ∉ value) (hne : value ≠ [])
    (hy : op.Yields key value kind) :
    (ofLine (key ++ (written ++ (value ++ ['\n']))) = kind ↔ ¬ Outranked form value) ∧
      (form = .counted .lines → ofLine (key ++ (written ++ (value ++ ['\n']))) = kind) := by
  have hread := ofLine_written hk.toPlainKey (hk.mark_not_mem form) hw hn hne hy
  refine ⟨⟨not_outranked_of_ofLine hk.toPlainKey hw hn hy, hread⟩, fun hform => hread ?_⟩
  rintro ⟨higher, _, _, _, _, _, hrank, -⟩
  rw [hform] at hrank
  exact Nat.not_lt_zero _ hrank

/-- A raw operator with nothing behind it does not count, one with a character behind it makes
all before it the key, and a count of lines stands against every operator in its value. -/
theorem ofLine_written_iff_behind_piece :
    (ofLine "k=x :=\n".toList = .plain .simple ['k'] "x :=".toList ∧
        ¬ Outranked .simple "x :=".toList) ∧
      (Outranked .simple "x :=y".toList ∧
        ofLine "k=x :=y\n".toList ≠ .plain .simple ['k'] "x :=y".toList) ∧
      ofLine "k:12L=:=a:1L=b\n".toList = .counted .lines ['k'] 12 ":=a:1L=b".toList := by
  have hk : BareKey ['k'] := ⟨by decide, by decide⟩
  have hread := ofLine_written_iff hk .simple (by decide : '\n' ∉ "x :=".toList) (by decide)
    (Operator.kind_eq_iff.1 (by decide : _ = LineKind.plain .simple ['k'] "x :=".toList))
  have hlost := ofLine_written_iff hk .simple (by decide : '\n' ∉ "x :=y".toList) (by decide)
    (Operator.kind_eq_iff.1 (by decide : _ = LineKind.plain .simple ['k'] "x :=y".toList))
  have hlines := ofLine_written_iff hk
    (.counted (by decide : ['1', '2'] ≠ []) (List.all_eq_true.1 (by decide)) (by decide)
      (by decide : 'L' ∈ CountUnit.letters .lines))
    (by decide : '\n' ∉ ":=a:1L=b".toList) (by decide)
    (Operator.kind_eq_iff.1 (by decide +kernel : _ = LineKind.counted .lines ['k'] 12 ":=a:1L=b".toList))
  have hkind : ofLine "k=x :=\n".toList = .plain .simple ['k'] "x :=".toList := by decide +kernel
  have hout : Outranked .simple "x :=y".toList :=
    ⟨.raw, .raw, ['x'], [' '], [':', '='], ['y'], by decide, .raw, by decide, by decide, by decide, rfl⟩
  exact ⟨⟨hkind, hread.1.1 hkind⟩, ⟨hout, fun h => hlost.1.1 h hout⟩, hlines.2 rfl⟩

end LineKind
end CountedConfig
