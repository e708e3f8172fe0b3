/-
The physical lines of an input that is put together.

An input whose last line is ended can be cut on its own: what follows begins a new
line (`ofInput_append`).  The newline byte occurs in the encoding of no other
character, so cutting at it never cuts a character.  An input is therefore readable
exactly when each of its lines is (`undecodable_mem_ofInput`), and a line that was
written with its newline is read as it was written (`ofInput_encode_line`).
-/
import CountedConfig.Input.PhysicalLine

namespace CountedConfig

/-! ### Bytes of a text -/

namespace Text

theorem encode_cons (c : Char) (t : Text) : encode (c :: t) = String.utf8EncodeChar c ++ encode t :=
  List.flatMap_cons

theorem encode_concat (t : Text) (c : Char) :
    encode (t ++ [c]) = encode t ++ String.utf8EncodeChar c := by
  rw [encode_append, encode_cons]
  exact congrArg (encode t ++ ·) (List.append_nil _)

theorem encode_line (l t : Text) : encode (l ++ '\n' :: t) = encode l ++ 10 :: encode t := by
  rw [encode_append, encode_cons]
  rfl

/-- A byte below 128 is the code point of the character that it encodes. -/
theorem toNat_eq_of_mem_utf8EncodeChar {b : UInt8} {c : Char} (h : b ∈ String.utf8EncodeChar c)
    (hb : b.toNat < 128) : c.toNat = b.toNat := by
  have hc : c.toNat = c.val.toNat := rfl
  unfold String.utf8EncodeChar at h
  simp only [← hc] at h
  split at h
  · simp only [List.mem_singleton] at h
    subst h
    simp only [UInt8.toNat_ofNat'] at hb ⊢
    omega
  -- In a longer encoding every byte has its highest bit set.
  · split at h
    · simp only [List.mem_cons, ← UInt8.toNat_inj, UInt8.toNat_ofNat', List.not_mem_nil,
        or_false] at h
      omega
    · split at h
      · simp only [List.mem_cons, ← UInt8.toNat_inj, UInt8.toNat_ofNat', List.not_mem_nil,
          or_false] at h
        omega
      · simp only [List.mem_cons, ← UInt8.toNat_inj, UInt8.toNat_ofNat', List.not_mem_nil,
          or_false] at h
        omega

theorem newline_not_mem_utf8EncodeChar {c : Char} (h : c ≠ '\n') :
    (10 : UInt8) ∉ String.utf8EncodeChar c := by
  intro hm
  have hc : c.toNat = 10 := toNat_eq_of_mem_utf8EncodeChar hm (by decide)
  exact h (Char.toNat_inj.1 hc)

theorem newline_not_mem_encode {t : Text} (h : '\n' ∉ t) : (10 : UInt8) ∉ encode t := by
  intro hm
  obtain ⟨c, hc, hb⟩ := List.mem_flatMap.1 hm
  exact newline_not_mem_utf8EncodeChar (fun e => h (e ▸ hc)) hb

theorem decode?_eq_none_iff {b : Bytes} : decode? b = none ↔ ∀ t, b ≠ encode t := by
  simp only [Option.eq_none_iff_forall_ne_some, ne_eq, decode?_eq_some_iff]

end Text

/-! ### Cutting bytes into lines -/

theorem splitLines_ne_nil {b : Bytes} (h : b ≠ []) : splitLines b ≠ [] := by
  cases b with
  | nil => exact absurd rfl h
  | cons x b =>
    rw [splitLines]
    split
    · simp
    · split <;> simp

theorem flatten_splitLines (b : Bytes) : (splitLines b).flatten = b := by
  induction b with
  | nil => rfl
  | cons x b ih =>
    rw [splitLines]
    split
    · simp [ih]
    · split
      · rename_i hs
        rw [hs] at ih
        simpa using ih
      · rename_i line more hs
        rw [hs] at ih
        simpa using ih

/-- Where a line has ended, what follows is cut as if nothing stood before it. -/
theorem splitLines_append {b : Bytes} (h : b = [] ∨ b.getLast? = some 10) (c : Bytes) :
    splitLines (b ++ c) = splitLines b ++ splitLines c := by
  induction b with
  | nil => rfl
  | cons x b ih =>
    rw [List.cons_append, splitLines, splitLines]
    by_cases hb : b = []
    · have hx : x = 10 := by simpa [hb] using h
      simp [hx, hb, splitLines]
    · have hlast : b = [] ∨ b.getLast? = some 10 := by
        obtain ⟨y, b, rfl⟩ := List.exists_cons_of_ne_nil hb
        simpa [List.getLast?_cons_cons] using h
      by_cases hx : x = 10
      · simp [hx, ih hlast]
      · obtain ⟨line, more, hs⟩ := List.exists_cons_of_ne_nil (splitLines_ne_nil hb)
        rw [ih hlast, hs]
        simp [hx]

/-- Bytes without a newline belong to the first line of what follows them. -/
theorem splitLines_append_of_not_mem {x : Bytes} (hx : (10 : UInt8) ∉ x) (hne : x ≠ []) (c : Bytes) :
    splitLines (x ++ c) = match splitLines c with
      | [] => [x]
      | line :: more => (x ++ line) :: more := by
  induction x with
  | nil => exact absurd rfl hne
  | cons y x ih =>
    have hy : y ≠ 10 := fun e => hx (e ▸ List.mem_cons_self)
    rw [List.cons_append, splitLines, if_neg hy]
    by_cases hxe : x = []
    · subst hxe
      rfl
    · rw [ih (fun hm => hx (List.mem_cons_of_mem y hm)) hxe]
      cases splitLines c <;> rfl

theorem splitLines_line {x : Bytes} (hx : (10 : UInt8) ∉ x) (c : Bytes) :
    splitLines (x ++ 10 :: c) = (x ++ [10]) :: splitLines c := by
  by_cases hne : x = []
  · subst hne
    simp [splitLines]
  · rw [splitLines_append_of_not_mem hx hne]
    simp [splitLines]

/-- A line of encoded text is encoded text. -/
theorem exists_encode_of_mem_splitLines {t : Text} {line : Bytes}
    (h : line ∈ splitLines (Text.encode t)) : ∃ s, line = Text.encode s := by
  induction t generalizing line with
  | nil => simp [Text.encode, splitLines] at h
  | cons c t ih =>
    rw [Text.encode_cons] at h
    by_cases hc : c = '\n'
    · have hn : String.utf8EncodeChar '\n' = [10] := by decide
      rw [hc, hn, List.singleton_append, splitLines, if_pos rfl] at h
      rcases List.mem_cons.1 h with rfl | h
      · exact ⟨['\n'], by simp [Text.encode, hn]⟩
      · exact ih h
    · rw [splitLines_append_of_not_mem (Text.newline_not_mem_utf8EncodeChar hc)
        String.utf8EncodeChar_ne_nil] at h
      split at h
      · rw [List.mem_singleton] at h
        exact ⟨[c], by simp [Text.encode, h]⟩
      · rename_i first more hs
        rw [hs] at ih
        rcases List.mem_cons.1 h with rfl | h
        · obtain ⟨s, rfl⟩ := ih List.mem_cons_self
          exact ⟨c :: s, (Text.encode_cons c s).symm⟩
        · exact ih (List.mem_cons_of_mem first h)

theorem exists_encode_flatten {lines : List Bytes} (h : ∀ line ∈ lines, ∃ s, line = Text.encode s) :
    ∃ t, lines.flatten = Text.encode t := by
  induction lines with
  | nil => exact ⟨[], rfl⟩
  | cons line more ih =>
    obtain ⟨s, rfl⟩ := h line List.mem_cons_self
    obtain ⟨t, ht⟩ := ih fun l hl => h l (List.mem_cons_of_mem _ hl)
    exact ⟨s ++ t, by rw [List.flatten_cons, ht, Text.encode_append]⟩

/-- Bytes are readable as a whole exactly when they are readable line by line. -/
theorem decode?_eq_none_iff_exists_line {b : Bytes} :
    Text.decode? b = none ↔ ∃ line ∈ splitLines b, Text.decode? line = none := by
  constructor
  · intro h
    refine Classical.byContradiction fun hall => ?_
    have hlines : ∀ line ∈ splitLines b, ∃ s, line = Text.encode s := by
      intro line hl
      cases hd : Text.decode? line with
      | none => exact absurd ⟨line, hl, hd⟩ hall
      | some s => exact ⟨s, Text.decode?_eq_some_iff.1 hd⟩
    obtain ⟨t, ht⟩ := exists_encode_flatten hlines
    rw [flatten_splitLines] at ht
    exact Text.decode?_eq_none_iff.1 h t ht
  · rintro ⟨line, hl, hd⟩
    refine Text.decode?_eq_none_iff.2 fun t e => ?_
    rw [e] at hl
    obtain ⟨s, hs⟩ := exists_encode_of_mem_splitLines hl
    exact Text.decode?_eq_none_iff.1 hd s hs

/-! ### Physical lines -/

/-- A newline at the end stays when no carriage return stands before it. -/
theorem normalizeEnd_line {l : Text} (h : l.getLast? ≠ some '\r') :
    normalizeEnd (l ++ ['\n']) = l ++ ['\n'] := by
  induction l with
  | nil => rfl
  | cons c l ih =>
    cases l with
    | nil =>
      have hc : c ≠ '\r' := by simpa using h
      simp [normalizeEnd, hc]
    | cons d l =>
      have hl : normalizeEnd (d :: l ++ ['\n']) = d :: l ++ ['\n'] :=
        ih (by simpa [List.getLast?_cons_cons] using h)
      simp only [List.cons_append] at hl ⊢
      rw [normalizeEnd, hl]
      simp

namespace PhysicalLine

/-- The line that holds a text and the newline behind it. -/
def ended : Text → PhysicalLine
  | [] => .text '\n' []
  | c :: rest => .text c (rest ++ ['\n'])

theorem ofBytes?_eq_undecodable_iff {b : Bytes} :
    ofBytes? b = some .undecodable ↔ Text.decode? b = none := by
  unfold ofBytes?
  split
  · simp [*]
  · split <;> simp [*]

theorem ofInput_append {b : Bytes} (h : b = [] ∨ b.getLast? = some 10) (c : Bytes) :
    ofInput (b ++ c) = ofInput b ++ ofInput c := by
  rw [ofInput, splitLines_append h, List.filterMap_append]
  rfl

/-- An input that is no text as a whole has a line that is no text. -/
theorem undecodable_mem_ofInput {b : Bytes} :
    PhysicalLine.undecodable ∈ ofInput b ↔ Text.decode? b = none := by
  rw [decode?_eq_none_iff_exists_line, ofInput, List.mem_filterMap]
  simp only [ofBytes?_eq_undecodable_iff]

/-- A line that is written with its newline is read with it. -/
theorem ofInput_encode_line {l : Text} (hn : '\n' ∉ l) (hr : l.getLast? ≠ some '\r') (t : Text) :
    ofInput (Text.encode (l ++ '\n' :: t)) = ended l :: ofInput (Text.encode t) := by
  have hl : Text.encode l ++ [10] = Text.encode (l ++ ['\n']) := (Text.encode_line l []).symm
  have hp : ofBytes? (Text.encode l ++ [10]) = some (ended l) := by
    rw [hl]
    unfold ofBytes?
    rw [Text.decode?_encode]
    simp only [normalizeEnd_line hr]
    cases l <;> rfl
  rw [Text.encode_line, ofInput, splitLines_line (Text.newline_not_mem_encode hn),
    List.filterMap_cons, hp]
  rfl

end PhysicalLine
end CountedConfig
