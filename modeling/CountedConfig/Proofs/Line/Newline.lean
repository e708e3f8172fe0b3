/-
A newline behind a line.

A physical line comes with its newline and the tail of a value without one.  A newline
is blank, and no operator and no value of one line goes over it, so both are read alike
(`LineKind.ofLine_newline`).
-/
import CountedConfig.Line.Key
import CountedConfig.Proofs.Text.Trailing

namespace CountedConfig

/-! ### Characters up to a newline -/

namespace Text

variable {p : Char → Bool} {c : Char}

theorem takeWhile_concat (h : p c = false) (t : Text) : (t ++ [c]).takeWhile p = t.takeWhile p := by
  induction t with
  | nil => simp [h]
  | cons d t ih => simp only [List.cons_append, List.takeWhile_cons, ih]

theorem dropWhile_concat (h : p c = false) (t : Text) :
    (t ++ [c]).dropWhile p = t.dropWhile p ++ [c] := by
  induction t with
  | nil => simp [h]
  | cons d t ih =>
    simp only [List.cons_append, List.dropWhile_cons, ih]
    split <;> rfl

theorem dropBlanks_eq_nil_iff {t : Text} : dropBlanks t = [] ↔ t.all isBlank = true := by
  induction t with
  | nil => simp [dropBlanks]
  | cons c t ih =>
    rw [dropBlanks] at ih ⊢
    cases hc : isBlank c <;> simp [hc, ih]

/-- The newline goes with the blanks when there is nothing else. -/
theorem dropBlanks_newline (t : Text) :
    dropBlanks (t ++ ['\n']) = if dropBlanks t = [] then [] else dropBlanks t ++ ['\n'] := by
  have hn : ['\n'].dropWhile isBlank = [] := by decide
  by_cases h : dropBlanks t = []
  · rw [if_pos h]
    rw [dropBlanks] at h ⊢
    rw [List.dropWhile_append, h]
    exact hn
  · rw [if_neg h]
    rw [dropBlanks] at h ⊢
    rw [List.dropWhile_append, if_neg (by simpa using h)]
    rfl

end Text

/-! ### Values and operators -/

theorem value?_eq_none_iff {tail : Text} : value? tail = none ↔ tail.all (· == '\n') = true := by
  rw [value?]
  split
  · rename_i h
    exact iff_of_true rfl h
  · rename_i h
    split <;> simp [h]

theorem value?_newline (tail : Text) : value? (tail ++ ['\n']) = value? tail := by
  have hblank : Text.isBlank '\n' = true := by decide
  have hn : (tail ++ ['\n']).all (· == '\n') = tail.all (· == '\n') := by simp
  have hb : (tail ++ ['\n']).all Text.isBlank = tail.all Text.isBlank := by simp [hblank]
  rw [value?, value?, hn, hb]
  by_cases h : tail.all Text.isBlank = true
  · simp only [h, if_true]
    rw [Text.dropTrailing_eq_rdropWhile, Text.dropTrailing_eq_rdropWhile,
      List.rdropWhile_concat_pos _ _ _ (by decide)]
  · -- The first visible character stands before the newline.
    have hne : Text.dropBlanks tail ≠ [] := fun e => h (Text.dropBlanks_eq_nil_iff.1 e)
    have hlen : (tail.takeWhile Text.isBlank).length ≠ tail.length := by
      intro e
      have hsum : tail.takeWhile Text.isBlank ++ Text.dropBlanks tail = tail :=
        List.takeWhile_append_dropWhile
      have := congrArg List.length hsum
      rw [List.length_append] at this
      have := List.length_pos_iff.2 hne
      omega
    have ht : (tail ++ ['\n']).takeWhile Text.isBlank = tail.takeWhile Text.isBlank := by
      rw [List.takeWhile_append, if_neg hlen]
    rw [if_neg h, if_neg h, ht, Text.dropBlanks_newline, if_neg hne,
      Text.takeWhile_concat (by decide)]

theorem readCount?_newline (t : Text) :
    readCount? (t ++ ['\n']) = (readCount? t).map fun (count, rest) => (count, rest ++ ['\n']) := by
  have hn : Char.isDigit '\n' = false := by decide
  cases t with
  | nil => simp [readCount?, hn]
  | cons c t =>
    have ht := Text.takeWhile_concat hn (c :: t)
    have hd := Text.dropWhile_concat hn (c :: t)
    rw [List.cons_append] at ht hd
    rw [List.cons_append, readCount?, readCount?, ht, hd]
    split <;> rfl

namespace Form

theorem operator?_newline (form : Form) (t : Text) :
    form.operator? (t ++ ['\n']) =
      (form.operator? t).map fun (op, tail) => (op, tail ++ ['\n']) := by
  cases t with
  | nil => cases form <;> rfl
  | cons c t =>
    rw [List.cons_append]
    cases form with
    | counted unit =>
      by_cases hc : c = ':'
      · subst hc
        simp only [operator?, readCount?_newline]
        rcases readCount? t with _ | ⟨count, _ | ⟨letter, _ | ⟨d, tail⟩⟩⟩
        · rfl
        · rfl
        · rfl
        · by_cases hd : d = '='
          · subst hd
            simp only [Option.map_some, List.cons_append]
            split <;> rfl
          · simp [hd]
      · simp [operator?, hc]
    | raw =>
      by_cases hc : c = ':'
      · subst hc
        cases t with
        | nil => rfl
        | cons d t =>
          by_cases hd : d = '='
          · subst hd
            rfl
          · simp [operator?, hd]
      · simp [operator?, hc]
    | simple =>
      by_cases hc : c = '='
      · subst hc
        rfl
      · simp [operator?, hc]

theorem operand?_newline (form : Form) (t : Text) :
    form.operand? (t ++ ['\n']) = form.operand? t := by
  rw [operand?, operand?, operator?_newline]
  cases form.operator? t with
  | none => rfl
  | some found =>
    obtain ⟨op, tail⟩ := found
    show (value? (tail ++ ['\n'])).map _ = (value? tail).map _
    rw [value?_newline]

end Form

/-! ### Lines -/

theorem shortestKey?_newline {α : Type} {p : Text → Option α}
    (hp : ∀ t, p (t ++ ['\n']) = p t) (t : Text) :
    shortestKey? p (t ++ ['\n']) = shortestKey? p t := by
  induction t with
  | nil => rfl
  | cons c rest ih =>
    have hd : p (Text.dropBlanks (rest ++ ['\n'])) = p (Text.dropBlanks rest) := by
      rw [Text.dropBlanks_newline]
      split
      · rename_i h
        rw [h]
      · exact hp _
    rw [List.cons_append, shortestKey?, shortestKey?, ih, hd]

namespace LineKind

/-- A newline behind a line does not change what the line means. -/
theorem ofLine_newline (line : Text) : ofLine (line ++ ['\n']) = ofLine line := by
  have hb := Text.dropBlanks_newline line
  by_cases h : Text.dropBlanks line = []
  · simp only [ofLine, hb, h, if_true]
  · rw [if_neg h] at hb
    have hhead : (Text.dropBlanks line ++ ['\n']).head? = (Text.dropBlanks line).head? := by
      cases hl : Text.dropBlanks line with
      | nil => exact absurd hl h
      | cons c rest => rfl
    have hassign : assignment? (Text.dropBlanks line ++ ['\n']) = assignment? (Text.dropBlanks line) := by
      funext form
      rw [assignment?, assignment?, shortestKey?_newline form.operand?_newline]
    simp [ofLine, hb, hhead, hassign, h]

end LineKind
end CountedConfig
