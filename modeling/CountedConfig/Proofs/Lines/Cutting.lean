/-
The physical lines of any bytes.

Bytes are nothing, or a last line without a newline, or a line with its newline before
other bytes; what holds of these three holds of all bytes (`line_induction`).
`LinesOf` says in this way which lines an input has, and the cutting of the library
gives them (`linesOf_ofInput`).
-/
import CountedConfig.Proofs.Lines

namespace CountedConfig

/-- What is read in lines is nothing, or one line that is not ended, or an ended line and
more. -/
theorem line_induction {α : Type} [DecidableEq α] (sep : α) {P : List α → Prop} (nil : P [])
    (last : ∀ l, l ≠ [] → sep ∉ l → P l)
    (ended : ∀ l more, sep ∉ l → P more → P (l ++ sep :: more)) (l : List α) : P l := by
  induction hn : l.length using Nat.strongRecOn generalizing l with
  | ind n ih =>
    by_cases hm : sep ∈ l
    · obtain ⟨line, more, rfl, hline⟩ := List.eq_append_cons_of_mem hm
      refine ended line more hline (ih more.length ?_ more rfl)
      rw [← hn, List.length_append, List.length_cons]
      omega
    · by_cases hl : l = []
      · exact hl ▸ nil
      · exact last l hl hm

/-! ### Terminators -/

/-- A return before the newline at the end goes. -/
theorem normalizeEnd_return (t : Text) : normalizeEnd (t ++ ['\r', '\n']) = t ++ ['\n'] := by
  induction t with
  | nil => rfl
  | cons c t ih =>
    rw [List.cons_append, normalizeEnd, ih]
    · rfl
    · intro _ h
      have := congrArg List.length h
      simp at this

theorem normalizeEnd_eq_self {t : Text} (h : ¬ ['\r', '\n'] <:+ t) : normalizeEnd t = t := by
  induction t with
  | nil => rfl
  | cons c t ih =>
    rw [normalizeEnd, ih fun hs => h (hs.trans (List.suffix_cons c t))]
    rintro rfl rfl
    exact h List.suffix_rfl

namespace PhysicalLine

/-- The line that some bytes are, their terminator among them. -/
inductive IsLine : Bytes → PhysicalLine → Prop
  | undecodable {b : Bytes} (h : Text.decode? b = none) : IsLine b .undecodable
  /-- The return before the newline is left out. -/
  | returned {b : Bytes} {t : Text} (h : Text.decode? b = some (t ++ ['\r', '\n'])) :
    IsLine b (ended t)
  | text {b : Bytes} {c : Char} {rest : Text} (h : Text.decode? b = some (c :: rest))
    (hr : ¬ ['\r', '\n'] <:+ c :: rest) : IsLine b (.text c rest)

/-- The lines that some bytes are: each but the last has its newline at its end, and no
line has one elsewhere. -/
inductive LinesOf : Bytes → List PhysicalLine → Prop
  | nil : LinesOf [] []
  | last {b : Bytes} {line : PhysicalLine} (hne : b ≠ []) (hb : (10 : UInt8) ∉ b)
    (h : IsLine b line) : LinesOf b [line]
  | cons {b more : Bytes} {line : PhysicalLine} {lines : List PhysicalLine}
    (hb : (10 : UInt8) ∉ b) (h : IsLine (b ++ [10]) line) (hmore : LinesOf more lines) :
    LinesOf (b ++ 10 :: more) (line :: lines)

/-! ### The cutting of the library -/

theorem ofInput_last {b : Bytes} (hne : b ≠ []) (hb : (10 : UInt8) ∉ b) :
    ofInput b = (ofBytes? b).toList := by
  have hs : splitLines b = [b] := by
    simpa [splitLines] using splitLines_append_of_not_mem hb hne []
  rw [ofInput, hs, List.filterMap_cons, List.filterMap_nil]
  cases ofBytes? b <;> rfl

theorem ofInput_line {b : Bytes} (hb : (10 : UInt8) ∉ b) (more : Bytes) :
    ofInput (b ++ 10 :: more) = (ofBytes? (b ++ [10])).toList ++ ofInput more := by
  rw [ofInput, splitLines_line hb, List.filterMap_cons]
  cases ofBytes? (b ++ [10]) <;> rfl

theorem ofBytes?_eq_text {b : Bytes} {t rest : Text} {c : Char} (hd : Text.decode? b = some t)
    (hn : normalizeEnd t = c :: rest) : ofBytes? b = some (.text c rest) := by
  simp only [ofBytes?, hd, hn]

theorem ofBytes?_eq_ended {b : Bytes} {t l : Text} (hd : Text.decode? b = some t)
    (hn : normalizeEnd t = l ++ ['\n']) : ofBytes? b = some (ended l) := by
  cases l with
  | nil => exact ofBytes?_eq_text hd hn
  | cons c l => exact ofBytes?_eq_text hd hn

/-- Bytes that are not nothing are a line. -/
theorem exists_isLine {b : Bytes} (hne : b ≠ []) : ∃ line, ofBytes? b = some line ∧ IsLine b line := by
  cases hd : Text.decode? b with
  | none => exact ⟨.undecodable, ofBytes?_eq_undecodable_iff.2 hd, .undecodable hd⟩
  | some t =>
    by_cases hr : ['\r', '\n'] <:+ t
    · obtain ⟨front, rfl⟩ := hr
      exact ⟨ended front, ofBytes?_eq_ended hd (normalizeEnd_return front), .returned hd⟩
    · cases t with
      | nil => exact absurd (Text.decode?_eq_some_iff.1 hd) hne
      | cons c rest =>
        exact ⟨.text c rest, ofBytes?_eq_text hd (normalizeEnd_eq_self hr), .text hd hr⟩

theorem linesOf_ofInput (b : Bytes) : LinesOf b (ofInput b) := by
  induction b using line_induction (10 : UInt8) with
  | nil => exact .nil
  | last b hne hb =>
    obtain ⟨line, hl, h⟩ := exists_isLine hne
    rw [ofInput_last hne hb, hl]
    exact .last hne hb h
  | ended b more hb ih =>
    obtain ⟨line, hl, h⟩ := exists_isLine (b := b ++ [10]) (by simp)
    rw [ofInput_line hb, hl]
    exact .cons hb h ih

end PhysicalLine
end CountedConfig
