/-
A counted operator behind a plain key.

A plain key holds no blank and no colon.  No operator of a counted form begins inside
it, so the operator that is written behind it is the first of its form on the line,
whatever stands in the value (`shortestKey?_counted`).
-/
import CountedConfig.Proofs.Line.Fragment

namespace CountedConfig

/-! ### Counts -/

theorem Text.head?_ofNat {n : Nat} (hn : 0 < n) : (ofNat n).head? ≠ some '0' := by
  induction n using Nat.strongRecOn with
  | ind n ih =>
    by_cases h : n < 10
    · have hd : ∀ m < 10, 0 < m → Nat.digitChar m ≠ '0' := by decide
      rw [ofNat, Nat.toDigits_of_lt_base h]
      simpa using hd n h hn
    · have hq := ih (n / 10) (by omega) (by omega)
      rw [ofNat] at hq ⊢
      rw [Nat.toDigits_of_base_le (by decide) (by omega), List.head?_append]
      cases hl : Nat.toDigits 10 (n / 10) with
      | nil => exact absurd hl Nat.toDigits_ne_nil
      | cons c more => rwa [hl] at hq

theorem readCount?_ofNat {n : Nat} (hn : 0 < n) {c : Char} (hc : c.isDigit = false) (rest : Text) :
    readCount? (Text.ofNat n ++ c :: rest) = some (min maxCount n, c :: rest) := by
  have hdigit : ∀ d ∈ Text.ofNat n, d.isDigit = true := fun d hd =>
    Nat.isDigit_of_mem_toDigits (by decide) (by decide) hd
  have hstop : ¬ c.isDigit = true := by simp [hc]
  have htake : (Text.ofNat n ++ c :: rest).takeWhile Char.isDigit = Text.ofNat n := by
    rw [List.takeWhile_append_of_pos hdigit, List.takeWhile_cons_of_neg hstop, List.append_nil]
  have hdrop : (Text.ofNat n ++ c :: rest).dropWhile Char.isDigit = c :: rest := by
    rw [List.dropWhile_append_of_pos hdigit, List.dropWhile_cons_of_neg hstop]
  have hvalue := Text.toNat_ofNat n
  have hzero := Text.head?_ofNat hn
  cases hd : Text.ofNat n with
  | nil => exact absurd hd Nat.toDigits_ne_nil
  | cons d digits =>
    rw [hd] at htake hdrop hvalue hzero hdigit
    have h0 : d ≠ '0' := by simpa using hzero
    rw [List.cons_append] at htake hdrop ⊢
    rw [readCount?, htake, hdrop, hvalue]
    simp [hdigit d List.mem_cons_self, h0]

theorem CountUnit.isDigit_eq_false {unit : CountUnit} {letter : Char}
    (h : unit.isLetter letter = true) : letter.isDigit = false := by
  cases unit with
  | lines =>
    simp only [isLetter, Bool.or_eq_true, beq_iff_eq] at h
    rcases h with rfl | rfl <;> decide
  | characters =>
    simp only [isLetter, Bool.or_eq_true, beq_iff_eq] at h
    rcases h with rfl | rfl <;> decide

/-! ### Operators -/

/-- A counted operator as it is written. -/
def countedOperator (letter : Char) (count : Nat) : Text :=
  ':' :: (Text.ofNat count ++ [letter, '='])

theorem newline_not_mem_countedOperator {letter : Char} (h : letter ≠ '\n') (count : Nat) :
    '\n' ∉ countedOperator letter count := by
  intro hm
  rcases List.mem_cons.1 hm with e | hm
  · exact absurd e (by decide)
  · rcases List.mem_append.1 hm with hm | hm
    · have hd := Nat.isDigit_of_mem_toDigits (by decide) (by decide) hm
      exact absurd hd (by decide)
    · simp [Ne.symm h] at hm

theorem Form.operand?_countedOperator {unit : CountUnit} {letter : Char} {count : Nat}
    {value : Text} (hl : unit.isLetter letter = true) (hc : 0 < count) (hn : '\n' ∉ value)
    (hv : value ≠ []) :
    (Form.counted unit).operand? (countedOperator letter count ++ value) =
      some (.counted unit (min maxCount count), value) := by
  have hr := readCount?_ofNat hc (CountUnit.isDigit_eq_false hl) ('=' :: value)
  have ho : (Form.counted unit).operator? (countedOperator letter count ++ value) =
      some (.counted unit (min maxCount count), value) := by
    simp only [countedOperator, List.cons_append, List.append_assoc, List.nil_append, operator?, hr,
      hl, if_true]
  rw [operand?, ho]
  simp only [value?_line hn hv, Option.map_some]

/-! ### Keys -/

/-- A key that can stand before a counted operator. -/
structure PlainKey (key : Text) : Prop where
  nonempty : key ≠ []
  visible : ∀ c ∈ key, Text.isBlank c = false
  no_colon : ':' ∉ key
  no_comment : key.head? ≠ some '#'

instance (key : Text) : Decidable (PlainKey key) :=
  decidable_of_iff (key ≠ [] ∧ key.all (fun c => !Text.isBlank c) = true ∧ ':' ∉ key ∧
    key.head? ≠ some '#')
    ⟨fun ⟨h₁, h₂, h₃, h₄⟩ => ⟨h₁, by simpa using h₂, h₃, h₄⟩,
      fun ⟨h₁, h₂, h₃, h₄⟩ => ⟨h₁, by simpa using h₂, h₃, h₄⟩⟩

theorem newline_not_mem_countedLine {letter : Char} {key value : Text} (hk : PlainKey key)
    (hl : letter ≠ '\n') (count : Nat) (hn : '\n' ∉ value) :
    '\n' ∉ key ++ (countedOperator letter count ++ value) := by
  intro hm
  rcases List.mem_append.1 hm with hm | hm
  · exact absurd (hk.visible '\n' hm) (by decide)
  · rcases List.mem_append.1 hm with hm | hm
    · exact newline_not_mem_countedOperator hl count hm
    · exact hn hm

theorem getLast?_countedLine (key : Text) (letter : Char) (count : Nat) {value : Text}
    (hv : value ≠ []) :
    (key ++ (countedOperator letter count ++ value)).getLast? = value.getLast? := by
  rw [List.getLast?_append, List.getLast?_append, List.getLast?_eq_some_getLast hv]
  rfl

theorem Text.dropBlanks_cons {c : Char} (h : isBlank c = false) (t : Text) :
    dropBlanks (c :: t) = c :: t :=
  List.dropWhile_cons_of_neg (by simp [h])

theorem Form.operand?_counted_eq_none {unit : CountUnit} {c : Char} (h : c ≠ ':') (t : Text) :
    (Form.counted unit).operand? (c :: t) = none := by
  simp [operand?, operator?, h]

theorem shortestKey?_counted {unit : CountUnit} {letter : Char} {count : Nat} {key value : Text}
    (hk : PlainKey key) (hl : unit.isLetter letter = true) (hc : 0 < count) (hn : '\n' ∉ value)
    (hv : value ≠ []) :
    shortestKey? (Form.counted unit).operand? (key ++ (countedOperator letter count ++ value)) =
      some (key, .counted unit (min maxCount count), value) := by
  refine shortestKey?_eq_some_iff.2 ⟨⟨hk.nonempty, hk.visible, _, rfl, ?_⟩, ?_⟩
  · have hd : Text.dropBlanks (countedOperator letter count ++ value) =
        countedOperator letter count ++ value := Text.dropBlanks_cons (by decide) _
    rw [hd, Form.operand?_countedOperator hl hc hn hv]
  · rintro other b ⟨-, -, behind, ht, hb⟩
    refine Nat.le_of_not_lt fun hlt => ?_
    -- A shorter key leaves a character of the key where the operator should begin.
    obtain ⟨more, hkey⟩ : ∃ more, key = other ++ more :=
      ⟨_, (List.prefix_iff_eq_append.1 (List.prefix_of_prefix_length_le
        ⟨behind, ht.symm⟩ (List.prefix_append key _) (Nat.le_of_lt hlt))).symm⟩
    have hbehind : behind = more ++ (countedOperator letter count ++ value) := by
      rw [hkey, List.append_assoc] at ht
      exact (List.append_cancel_left ht).symm
    obtain ⟨c, more, rfl⟩ : ∃ c rest, more = c :: rest := by
      refine List.exists_cons_of_ne_nil fun e => ?_
      rw [hkey, e, List.append_nil] at hlt
      exact Nat.lt_irrefl _ hlt
    have hmem : c ∈ key := hkey ▸ List.mem_append_right other List.mem_cons_self
    have hcolon : c ≠ ':' := fun e => hk.no_colon (e ▸ hmem)
    rw [hbehind, List.cons_append, Text.dropBlanks_cons (hk.visible c hmem),
      Form.operand?_counted_eq_none hcolon] at hb
    simp at hb

/-- A line that counts lines is read as it was written. -/
theorem LineKind.ofLine_lines {letter : Char} {count : Nat} {key value : Text}
    (hk : PlainKey key) (hl : CountUnit.lines.isLetter letter = true) (hc : 0 < count)
    (hn : '\n' ∉ value) (hv : value ≠ []) :
    ofLine (key ++ (countedOperator letter count ++ value)) =
      .counted .lines key (min maxCount count) value := by
  have hs := shortestKey?_counted hk hl hc hn hv
  obtain ⟨c, more, rfl⟩ := List.exists_cons_of_ne_nil hk.nonempty
  have hb : Text.isBlank c = false := hk.visible c List.mem_cons_self
  have hcomment : c ≠ '#' := by simpa using hk.no_comment
  rw [List.cons_append] at hs ⊢
  have ha : assignment? (c :: (more ++ (countedOperator letter count ++ value))) (.counted .lines) =
      some (.counted .lines (c :: more) (min maxCount count) value) := by
    rw [assignment?, hs]
    rfl
  unfold ofLine
  simp only [Text.dropBlanks_cons hb, Form.byPriority, List.findSome?_cons, ha, List.head?_cons,
    Option.some.injEq, hcomment, if_false]

end CountedConfig
