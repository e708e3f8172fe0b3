/-
A line is classified by its grammar.

The reader of operators finds what is written (`Form.operator?_eq_some_iff`), the value is
what the grammar captures (`value?_eq_some_iff`), and the search for a key goes through the
ways to cut the line (`keyed_iff`).  The meaning that is found is therefore the one that
the grammar gives, and there is one for every line (`LineKind.ofLine_eq_iff`).
-/
import CountedConfig.Proofs.Line.Counted
import CountedConfig.Proofs.Line.Grammar

namespace CountedConfig

open Text (Blank Visible)

/-! ### Operators -/

theorem CountUnit.isLetter_iff {unit : CountUnit} {letter : Char} :
    unit.isLetter letter = true ↔ letter ∈ unit.letters := by
  cases unit <;> simp [isLetter, letters]

/-- A count is the longest run of digits, if the first of them is not zero. -/
theorem readCount?_eq_some_iff {t rest : Text} {count : Nat} :
    readCount? t = some (count, rest) ↔ ∃ digits, digits ≠ [] ∧ (∀ c ∈ digits, c.isDigit = true) ∧
      digits.head? ≠ some '0' ∧ (∀ c, rest.head? = some c → c.isDigit = false) ∧
      count = min (UInt64.size - 1) (Text.toNat digits) ∧ t = digits ++ rest := by
  constructor
  · intro h
    cases t with
    | nil => simp [readCount?] at h
    | cons c t =>
      rw [readCount?] at h
      split at h
      · rename_i hc
        simp only [Bool.and_eq_true, bne_iff_ne, ne_eq] at hc
        simp only [Option.some.injEq, Prod.mk.injEq] at h
        obtain ⟨rfl, rfl⟩ := h
        have htake : (c :: t).takeWhile Char.isDigit = c :: t.takeWhile Char.isDigit :=
          List.takeWhile_cons_of_pos hc.1
        refine ⟨(c :: t).takeWhile Char.isDigit, ?_, List.all_eq_true.1 List.all_takeWhile, ?_, ?_, rfl,
          List.takeWhile_append_dropWhile.symm⟩
        · simp [htake]
        · simp [htake, hc.2]
        · exact fun d hd => Text.not_head?_dropWhile hd
      · simp at h
  · rintro ⟨digits, hne, hdigits, hzero, hrest, rfl, rfl⟩
    obtain ⟨c, digits, rfl⟩ := List.exists_cons_of_ne_nil hne
    have hc : c.isDigit = true := hdigits c List.mem_cons_self
    have h0 : c ≠ '0' := by simpa using hzero
    have htake := Text.takeWhile_run hdigits hrest
    have hdrop := Text.dropWhile_run hdigits hrest
    rw [List.cons_append] at htake hdrop ⊢
    rw [readCount?, htake, hdrop]
    simp only [hc, bne_iff_ne, ne_eq, h0, not_false_eq_true, if_true, Bool.true_and]
    rfl

theorem Form.operator?_eq_some_iff {form : Form} {t tail : Text} {op : Operator} :
    form.operator? t = some (op, tail) ↔ ∃ written, Operator.Written form op written ∧
      t = written ++ tail := by
  constructor
  · intro h
    unfold operator? at h
    split at h
    · rename_i unit rest
      split at h
      · rename_i count letter tail' hc
        split at h
        · rename_i hl
          simp only [Option.some.injEq, Prod.mk.injEq] at h
          obtain ⟨rfl, rfl⟩ := h
          obtain ⟨digits, hne, hdigits, hzero, -, rfl, rfl⟩ := readCount?_eq_some_iff.1 hc
          exact ⟨_, .counted hne hdigits hzero (CountUnit.isLetter_iff.1 hl), by simp⟩
        · simp at h
      · simp at h
    · simp only [Option.some.injEq, Prod.mk.injEq] at h
      obtain ⟨rfl, rfl⟩ := h
      exact ⟨_, .raw, rfl⟩
    · simp only [Option.some.injEq, Prod.mk.injEq] at h
      obtain ⟨rfl, rfl⟩ := h
      exact ⟨_, .simple, rfl⟩
    · simp at h
  · rintro ⟨written, hw, rfl⟩
    cases hw with
    | @counted unit digits letter hne hdigits hzero hletter =>
      have hstop : ∀ c, (letter :: '=' :: tail).head? = some c → c.isDigit = false := fun c hc =>
        Option.some.inj hc ▸ CountUnit.isDigit_eq_false (CountUnit.isLetter_iff.2 hletter)
      have hc := readCount?_eq_some_iff.2 ⟨digits, hne, hdigits, hzero, hstop, rfl, rfl⟩
      have ht : ':' :: (digits ++ [letter, '=']) ++ tail = ':' :: (digits ++ letter :: '=' :: tail) := by
        simp
      simp only [ht, operator?, hc, CountUnit.isLetter_iff.2 hletter, if_true]
    | raw => rfl
    | simple => rfl

/-- An operator begins with a colon or an equals sign. -/
theorem Operator.Written.head_visible {form : Form} {op : Operator} {written : Text}
    (h : Written form op written) (tail : Text) {c : Char}
    (hc : (written ++ tail).head? = some c) : Text.isBlank c = false := by
  cases h with
  | counted => exact Option.some.inj hc ▸ by decide
  | raw => exact Option.some.inj hc ▸ by decide
  | simple => exact Option.some.inj hc ▸ by decide

/-! ### Values -/

/-- The value of a tail with a visible character runs over its blanks and to a newline. -/
theorem captured_visible {tail : Text} (h : ¬ Blank tail) :
    Captured tail (tail.takeWhile Text.isBlank ++ (Text.dropBlanks tail).takeWhile (· != '\n')) := by
  obtain ⟨c, body, hcons⟩ := List.exists_cons_of_ne_nil (mt Text.dropBlanks_eq_nil.1 h)
  have hc : Text.isBlank c = false := Text.isBlank_head?_dropBlanks (by rw [hcons]; rfl)
  have hcn : c ≠ '\n' := (Text.ne_of_isBlank (by decide) hc).symm
  have hbody : ((Text.dropBlanks tail).takeWhile (· != '\n')).head? = some c := by
    simp [hcons, hcn]
  have hline : '\n' ∉ (Text.dropBlanks tail).takeWhile (· != '\n') := fun hm => by
    simpa using List.all_eq_true.1 List.all_takeWhile _ hm
  have hrest : ∀ d, ((Text.dropBlanks tail).dropWhile (· != '\n')).head? = some d → d = '\n' :=
    fun d hd => by simpa using Text.not_head?_dropWhile hd
  have hcapture := Captured.visible (Text.blank_takeWhile tail) ⟨c, hbody, hc⟩ hline hrest
  rwa [List.takeWhile_append_dropWhile, Text.takeWhile_append_dropBlanks] at hcapture

theorem value?_eq_some_iff {tail value : Text} :
    value? tail = some value ↔ (∃ c ∈ tail, c ≠ '\n') ∧ Captured tail value := by
  have hnewlines : tail.all (· == '\n') = true ↔ ¬ ∃ c ∈ tail, c ≠ '\n' := by simp
  have hblank : tail.all Text.isBlank = true ↔ Blank tail := List.all_eq_true
  unfold value?
  constructor
  · intro h
    split at h
    · simp at h
    · rename_i hn
      refine ⟨Classical.not_not.1 (mt hnewlines.2 hn), ?_⟩
      split at h
      · rename_i hb
        exact .blank (hblank.1 hb) (Text.dropTrailing_eq_iff.1 (Option.some.inj h))
      · rename_i hb
        exact Option.some.inj h ▸ captured_visible (mt hblank.2 hb)
  · rintro ⟨hex, hcapture⟩
    rw [if_neg (mt hnewlines.1 (not_not_intro hex))]
    cases hcapture with
    | @visible blanks body rest hblanks hbody hline hrest =>
      obtain ⟨c, hc, hv⟩ := hbody
      have hfirst : ∀ d, (body ++ rest).head? = some d → Text.isBlank d = false := by
        intro d hd
        rw [List.head?_append, hc, Option.some_or, Option.some.injEq] at hd
        exact hd ▸ hv
      have hnot : ¬ Blank (blanks ++ (body ++ rest)) := fun hb => by
        have hm : c ∈ blanks ++ (body ++ rest) :=
          List.mem_append_right _ (List.mem_append_left _ (List.mem_of_head? hc))
        rw [hb c hm] at hv
        exact absurd hv (by decide)
      have hbodyline : ∀ d ∈ body, (d != '\n') = true := fun d hd => by
        rw [bne_iff_ne]
        rintro rfl
        exact hline hd
      rw [if_neg (mt hblank.1 hnot), Text.takeWhile_run hblanks hfirst,
        Text.dropBlanks_append hblanks hfirst,
        Text.takeWhile_run hbodyline fun d hd => by simp [hrest d hd]]
    | blank htail h => rw [if_pos (hblank.2 htail), Text.dropTrailing_eq_iff.2 h]

theorem exists_captured {tail : Text} (h : ∃ c ∈ tail, c ≠ '\n') : ∃ value, Captured tail value := by
  cases hv : value? tail with
  | some value => exact ⟨value, (value?_eq_some_iff.1 hv).2⟩
  | none =>
    obtain ⟨c, hc, hne⟩ := h
    exact absurd (List.all_eq_true.1 (value?_eq_none_iff.1 hv) c hc) (by simpa using hne)

/-! ### Keys -/

theorem Form.operand?_eq_some_iff {form : Form} {t value : Text} {op : Operator} :
    form.operand? t = some (op, value) ↔
      ∃ tail, form.operator? t = some (op, tail) ∧ value? tail = some value := by
  unfold operand?
  cases form.operator? t with
  | none => simp
  | some found =>
    obtain ⟨o, tail⟩ := found
    simp only [Option.map_eq_some_iff, Prod.mk.injEq, Option.some.injEq]
    constructor
    · rintro ⟨v, hv, rfl, rfl⟩
      exact ⟨tail, ⟨rfl, rfl⟩, hv⟩
    · rintro ⟨_, ⟨rfl, rfl⟩, hv⟩
      exact ⟨value, hv, rfl, rfl⟩

/-- A key is found where the line can be cut. -/
theorem keyed_iff {form : Form} {line key value : Text} {op : Operator} :
    Keyed form.operand? (Text.dropBlanks line) key (op, value) ↔
      ∃ tail, Factors form line key op tail ∧ Captured tail value := by
  constructor
  · rintro ⟨hne, hvisible, rest, hline, hoperand⟩
    obtain ⟨tail, hop, hvalue⟩ := Form.operand?_eq_some_iff.1 hoperand
    obtain ⟨written, hw, hrest⟩ := Form.operator?_eq_some_iff.1 hop
    obtain ⟨hex, hcapture⟩ := value?_eq_some_iff.1 hvalue
    refine ⟨tail, ⟨hne, hvisible, ⟨line.takeWhile Text.isBlank, rest.takeWhile Text.isBlank, written,
      Text.blank_takeWhile line, Text.blank_takeWhile rest, hw, ?_⟩, hex⟩, hcapture⟩
    rw [← hrest, Text.takeWhile_append_dropBlanks, ← hline, Text.takeWhile_append_dropBlanks]
  · rintro ⟨tail, ⟨hne, hvisible, ⟨before, behind, written, hbefore, hbehind, hw, rfl⟩, hex⟩, hcapture⟩
    have hkey : ∀ c, (key ++ (behind ++ (written ++ tail))).head? = some c →
        Text.isBlank c = false := fun c hc => by
      obtain ⟨d, more, rfl⟩ := List.exists_cons_of_ne_nil hne
      exact Option.some.inj hc ▸ hvisible d List.mem_cons_self
    refine ⟨hne, hvisible, behind ++ (written ++ tail), Text.dropBlanks_append hbefore hkey, ?_⟩
    rw [Text.dropBlanks_append hbehind fun c hc => hw.head_visible tail hc]
    exact Form.operand?_eq_some_iff.2 ⟨tail, Form.operator?_eq_some_iff.2 ⟨written, hw, rfl⟩,
      value?_eq_some_iff.2 ⟨hex, hcapture⟩⟩

/-- No key is found where none can be cut off. -/
theorem shortestKey?_eq_none_iff {α : Type} {p : Text → Option α} {t : Text} :
    shortestKey? p t = none ↔ ∀ key a, ¬ Keyed p t key a := by
  induction t with
  | nil => simp [shortestKey?, not_keyed_nil]
  | cons c rest ih =>
    rw [shortestKey?]
    constructor
    · intro h key a hk
      obtain ⟨hc, more, rfl, hmore⟩ := hk.of_cons
      rw [if_neg (by simp [hc])] at h
      cases hp : p (Text.dropBlanks rest) with
      | some b => simp [hp] at h
      | none =>
        simp only [hp, Option.map_eq_none_iff] at h
        rcases hmore with ⟨-, ha⟩ | hk
        · simp [hp] at ha
        · exact ih.1 h more a hk
    · intro h
      split
      · rfl
      · rename_i hc
        have hc : Text.isBlank c = false := by simpa using hc
        split
        · rename_i a ha
          exact absurd (keyed_singleton hc ha) (h [c] a)
        · exact Option.map_eq_none_iff.2 (ih.2 fun key a hk => h (c :: key) a (hk.cons hc))

/-! ### Assignments -/

theorem unquoted_iff {t u : Text} :
    (if t.head? = some '\'' ∧ t.getLast? = some '\'' then t.tail.dropLast else t) = u ↔
      Unquoted t u := by
  constructor
  · rintro rfl
    split
    · rename_i h
      obtain ⟨rest, rfl⟩ := List.head?_eq_some_iff.1 h.1
      by_cases hrest : rest = []
      · subst hrest
        exact .alone
      · obtain ⟨more, c, rfl⟩ : ∃ more c, rest = more ++ [c] :=
          ⟨_, _, (List.dropLast_concat_getLast hrest).symm⟩
        have hlast := h.2
        rw [← List.cons_append, List.getLast?_concat] at hlast
        obtain rfl := Option.some.inj hlast
        rw [List.tail_cons, List.dropLast_concat]
        exact .pair more
    · rename_i h
      exact .plain h
  · intro h
    cases h with
    | alone => rfl
    | pair => simp [List.getLast?_cons]
    | plain h => exact if_neg h

theorem unquote_eq_iff {value u : Text} :
    unquote value = u ↔ ∃ trimmed, Text.Trims value trimmed ∧ Unquoted trimmed u := by
  constructor
  · intro h
    exact ⟨Text.trim value, Text.trims_trim value, unquoted_iff.1 h⟩
  · rintro ⟨trimmed, ht, hu⟩
    rw [unquote, Text.trim_eq_iff.2 ht]
    exact unquoted_iff.2 hu

theorem Operator.kind_eq_iff {op : Operator} {key value : Text} {kind : LineKind} :
    op.kind key value = kind ↔ op.Yields key value kind := by
  constructor
  · rintro rfl
    cases op with
    | counted unit count => exact .counted unit count key value
    | raw => exact .raw (Text.strips_dropTrailing _ value)
    | simple =>
      obtain ⟨trimmed, ht, hu⟩ := unquote_eq_iff.1 (rfl : unquote (Text.dropLineBreaks value) = _)
      exact .simple (Text.strips_dropTrailing _ value) ht hu
  · intro h
    cases h with
    | counted => rfl
    | raw h => exact congrArg _ (Text.dropTrailing_eq_iff.2 h)
    | simple h ht hu =>
      have hv : Text.dropLineBreaks value = _ := Text.dropTrailing_eq_iff.2 h
      rw [kind, hv, unquote_eq_iff.2 ⟨_, ht, hu⟩]

namespace LineKind

theorem assignment?_eq_none_iff {line : Text} {form : Form} :
    assignment? (Text.dropBlanks line) form = none ↔
      ∀ key op tail, ¬ Factors form line key op tail := by
  rw [assignment?, Option.map_eq_none_iff, shortestKey?_eq_none_iff]
  constructor
  · intro h key op tail hf
    obtain ⟨value, hcapture⟩ := exists_captured hf.value
    exact h key (op, value) (keyed_iff.2 ⟨tail, hf, hcapture⟩)
  · rintro h key ⟨op, value⟩ hk
    obtain ⟨tail, hf, -⟩ := keyed_iff.1 hk
    exact h key op tail hf

theorem assignment?_eq_some_iff {line : Text} {form : Form} {kind : LineKind} :
    assignment? (Text.dropBlanks line) form = some kind ↔
      ∃ key op tail value, Factors form line key op tail ∧
        (∀ key' op' tail', Factors form line key' op' tail' → key.length ≤ key'.length) ∧
        Captured tail value ∧ op.Yields key value kind := by
  have hshort : ∀ key : Text, (∀ other b, Keyed form.operand? (Text.dropBlanks line) other b →
      key.length ≤ other.length) ↔
        ∀ key' op' tail', Factors form line key' op' tail' → key.length ≤ key'.length := by
    intro key
    constructor
    · intro h key' op' tail' hf
      obtain ⟨value', hcapture⟩ := exists_captured hf.value
      exact h key' (op', value') (keyed_iff.2 ⟨tail', hf, hcapture⟩)
    · rintro h key' ⟨op', value'⟩ hk
      obtain ⟨tail', hf, -⟩ := keyed_iff.1 hk
      exact h key' op' tail' hf
  rw [assignment?, Option.map_eq_some_iff]
  constructor
  · rintro ⟨⟨key, op, value⟩, hs, hkind⟩
    obtain ⟨hk, hmin⟩ := shortestKey?_eq_some_iff.1 hs
    obtain ⟨tail, hf, hcapture⟩ := keyed_iff.1 hk
    exact ⟨key, op, tail, value, hf, (hshort key).1 hmin, hcapture, Operator.kind_eq_iff.1 hkind⟩
  · rintro ⟨key, op, tail, value, hf, hmin, hcapture, hy⟩
    exact ⟨(key, op, value), shortestKey?_eq_some_iff.2
      ⟨keyed_iff.2 ⟨tail, hf, hcapture⟩, (hshort key).2 hmin⟩, Operator.kind_eq_iff.2 hy⟩

end LineKind

/-! ### Forms in order -/

theorem Form.pairwise_byPriority : byPriority.Pairwise fun a b => a.rank < b.rank := by decide

theorem Form.mem_byPriority (form : Form) : form ∈ byPriority := by
  rcases form with (_ | _) | _ | _ <;> decide

/-- The form that is found first is the one of the highest rank that gives something. -/
theorem Form.findSome?_byPriority {α : Type} {f : Form → Option α} {a : α} :
    byPriority.findSome? f = some a ↔
      ∃ form, f form = some a ∧ ∀ other, other.rank < form.rank → f other = none := by
  rw [List.findSome?_eq_some_iff]
  constructor
  · rintro ⟨before, form, behind, hsplit, ha, hnone⟩
    refine ⟨form, ha, fun other hrank => hnone other ?_⟩
    have hpair := Form.pairwise_byPriority
    have hmem := Form.mem_byPriority other
    rw [hsplit] at hpair hmem
    have hlater := (List.pairwise_cons.1 (List.pairwise_append.1 hpair).2.1).1
    rcases List.mem_append.1 hmem with hm | hm
    · exact hm
    · rcases List.mem_cons.1 hm with rfl | hm
      · exact absurd hrank (Nat.lt_irrefl _)
      · exact absurd hrank (Nat.lt_asymm (hlater other hm))
  · rintro ⟨form, ha, hnone⟩
    obtain ⟨before, behind, hsplit⟩ := List.append_of_mem (Form.mem_byPriority form)
    refine ⟨before, form, behind, hsplit, ha, fun other hm => hnone other ?_⟩
    have hpair := Form.pairwise_byPriority
    rw [hsplit] at hpair
    exact (List.pairwise_append.1 hpair).2.2 other hm form List.mem_cons_self

/-! ### Lines -/

theorem commented_iff {line : Text} : (Text.dropBlanks line).head? = some '#' ↔ Commented line := by
  constructor
  · intro h
    obtain ⟨rest, hrest⟩ := List.head?_eq_some_iff.1 h
    exact ⟨line.takeWhile Text.isBlank, rest, Text.blank_takeWhile line,
      by rw [← hrest, Text.takeWhile_append_dropBlanks]⟩
  · rintro ⟨before, rest, hb, rfl⟩
    have hmark : ∀ c, ('#' :: rest).head? = some c → Text.isBlank c = false := fun c hc =>
      Option.some.inj hc ▸ by decide
    rw [Text.dropBlanks_append hb hmark]
    rfl

namespace LineKind

/-- A line of blanks cannot be cut: a key stands in every cut. -/
theorem not_factors_of_blank {line : Text} (hb : Blank line) (form : Form) (key : Text)
    (op : Operator) (tail : Text) : ¬ Factors form line key op tail := by
  rintro ⟨hne, hvisible, ⟨before, behind, written, -, -, -, rfl⟩, -⟩
  obtain ⟨c, more, rfl⟩ := List.exists_cons_of_ne_nil hne
  have hc := hb c (List.mem_append_right _ (List.mem_append_left _ List.mem_cons_self))
  rw [hvisible c List.mem_cons_self] at hc
  exact absurd hc (by decide)

theorem not_commented_of_blank {line : Text} (hb : Blank line) : ¬ Commented line := by
  rintro ⟨before, rest, -, rfl⟩
  exact absurd (hb '#' (List.mem_append_right _ List.mem_cons_self)) (by decide)

/-- What a line that is no comment assigns. -/
theorem findSome?_assignment?_iff {line : Text} {kind : LineKind} :
    Form.byPriority.findSome? (assignment? (Text.dropBlanks line)) = some kind ↔
      ∃ form key op tail value, Decides form line key op tail ∧ Captured tail value ∧
        op.Yields key value kind := by
  rw [Form.findSome?_byPriority]
  constructor
  · rintro ⟨form, hf, hnone⟩
    obtain ⟨key, op, tail, value, hfactors, hmin, hcapture, hy⟩ := assignment?_eq_some_iff.1 hf
    refine ⟨form, key, op, tail, value, ⟨hfactors, fun form' key' op' tail' hf' => ?_, hmin⟩, hcapture, hy⟩
    refine Nat.le_of_not_lt fun hrank => ?_
    exact assignment?_eq_none_iff.1 (hnone form' hrank) key' op' tail' hf'
  · rintro ⟨form, key, op, tail, value, ⟨hfactors, hfirst, hmin⟩, hcapture, hy⟩
    refine ⟨form, assignment?_eq_some_iff.2 ⟨key, op, tail, value, hfactors, hmin, hcapture, hy⟩,
      fun other hrank => assignment?_eq_none_iff.2 fun key' op' tail' hf' => ?_⟩
    exact Nat.not_lt_of_le (hfirst other key' op' tail' hf') hrank

theorem findSome?_assignment?_eq_none_iff {line : Text} :
    Form.byPriority.findSome? (assignment? (Text.dropBlanks line)) = none ↔
      ∀ form key op tail, ¬ Factors form line key op tail := by
  rw [List.findSome?_eq_none_iff]
  constructor
  · exact fun h form => assignment?_eq_none_iff.1 (h form (Form.mem_byPriority form))
  · exact fun h form _ => assignment?_eq_none_iff.2 (h form)

/-- The meaning that is found for a line is the one that the grammar gives. -/
theorem ofLine_eq_iff {line : Text} {kind : LineKind} : ofLine line = kind ↔ Means line kind := by
  unfold ofLine
  constructor
  · intro h
    simp only at h
    split at h
    · rename_i hc
      exact h ▸ .comment (commented_iff.1 hc)
    · rename_i hc
      split at h
      · rename_i found hfound
        obtain ⟨form, key, op, tail, value, hd, hcapture, hy⟩ := findSome?_assignment?_iff.1 hfound
        exact h ▸ .assignment (mt commented_iff.2 hc) hd hcapture hy
      · rename_i hnone
        split at h
        · rename_i hb
          exact h ▸ .blank (Text.dropBlanks_eq_nil.1 hb)
        · rename_i hb
          exact h ▸ .unrecognized (mt commented_iff.2 hc) (mt Text.dropBlanks_eq_nil.2 hb)
            (findSome?_assignment?_eq_none_iff.1 hnone)
  · intro h
    cases h with
    | comment hc => exact if_pos (commented_iff.2 hc)
    | assignment hc hd hcapture hy =>
      have hfound := findSome?_assignment?_iff.2 ⟨_, _, _, _, _, hd, hcapture, hy⟩
      simp only [mt commented_iff.1 hc, if_false, hfound]
    | blank hb =>
      have hnone := findSome?_assignment?_eq_none_iff.2 (not_factors_of_blank hb)
      have hc := mt commented_iff.1 (not_commented_of_blank hb)
      simp only [hc, if_false, hnone]
      exact if_pos (Text.dropBlanks_eq_nil.2 hb)
    | unrecognized hc hb hnone =>
      have hnone := findSome?_assignment?_eq_none_iff.2 hnone
      simp only [mt commented_iff.1 hc, if_false, hnone]
      exact if_neg (mt Text.dropBlanks_eq_nil.1 hb)

end LineKind
end CountedConfig
