/-
The text that an input is read as.

A terminator is a newline, or a return and a newline, and either is read as a newline.  The lines
of an input are therefore the pieces of one text, the text of the input with each of its terminators
made a newline (`flatten_readable_ofInput_encode`).
-/
import CountedConfig.Proofs.Lines.Cutting
import CountedConfig.Proofs.Remainder

namespace CountedConfig

/-- The text with every carriage return and newline made a newline. -/
def normalizeEnds : Text → Text
  | [] => []
  | '\r' :: '\n' :: rest => '\n' :: normalizeEnds rest
  | c :: rest => c :: normalizeEnds rest

theorem normalizeEnds_cons {c : Char} (h : c ≠ '\r') (t : Text) :
    normalizeEnds (c :: t) = c :: normalizeEnds t := by
  rw [normalizeEnds]
  intro rest hc
  exact absurd hc h

/-- A return that no newline follows stays. -/
theorem normalizeEnds_return {t : Text} (h : t.head? ≠ some '\n') :
    normalizeEnds ('\r' :: t) = '\r' :: normalizeEnds t := by
  rw [normalizeEnds]
  intro rest _ ht
  exact h (by rw [ht]; rfl)

theorem normalizeEnds_eq_self {t : Text} (h : '\r' ∉ t) : normalizeEnds t = t := by
  induction t with
  | nil => rfl
  | cons c t ih =>
    have hc : c ≠ '\r' := fun e => h (e ▸ List.mem_cons_self)
    rw [normalizeEnds_cons hc, ih fun hm => h (List.mem_cons_of_mem c hm)]

theorem normalizeEnds_of_no_newline {t : Text} (h : '\n' ∉ t) : normalizeEnds t = t := by
  induction t with
  | nil => rfl
  | cons c t ih =>
    have ht : '\n' ∉ t := fun hm => h (List.mem_cons_of_mem c hm)
    by_cases hc : c = '\r'
    · subst hc
      rw [normalizeEnds_return fun he => ht (List.mem_of_head? he), ih ht]
    · rw [normalizeEnds_cons hc, ih ht]

/-- The first line takes its own terminator, and what follows is for itself. -/
theorem normalizeEnds_line {l : Text} (h : '\n' ∉ l) (more : Text) :
    normalizeEnds (l ++ '\n' :: more) = normalizeEnd (l ++ ['\n']) ++ normalizeEnds more := by
  induction l with
  | nil => rfl
  | cons c l ih =>
    have hl : '\n' ∉ l := fun hm => h (List.mem_cons_of_mem c hm)
    cases l with
    | nil =>
      by_cases hc : c = '\r'
      · subst hc
        rfl
      · show normalizeEnds (c :: '\n' :: more) = normalizeEnd ([c] ++ ['\n']) ++ normalizeEnds more
        rw [normalizeEnds_cons hc, normalizeEnd_line (by simpa using hc)]
        rfl
    | cons d l =>
      have hd : d ≠ '\n' := fun e => hl (e ▸ List.mem_cons_self)
      have hends : normalizeEnds (c :: (d :: l ++ '\n' :: more)) =
          c :: normalizeEnds (d :: l ++ '\n' :: more) := by
        by_cases hc : c = '\r'
        · subst hc
          exact normalizeEnds_return (by simpa using hd)
        · exact normalizeEnds_cons hc _
      have hend : normalizeEnd (c :: (d :: l ++ ['\n'])) = c :: normalizeEnd (d :: l ++ ['\n']) := by
        rw [normalizeEnd]
        intro _ he
        exact hd (List.cons.inj he).1
      show normalizeEnds (c :: (d :: l ++ '\n' :: more)) =
        normalizeEnd (c :: (d :: l ++ ['\n'])) ++ normalizeEnds more
      rw [hends, hend, ih hl]
      rfl

theorem normalizeEnd_ne_nil {t : Text} (h : t ≠ []) : normalizeEnd t ≠ [] := by
  intro he
  by_cases hs : ['\r', '\n'] <:+ t
  · obtain ⟨front, rfl⟩ := hs
    rw [normalizeEnd_return] at he
    simp at he
  · rw [normalizeEnd_eq_self hs] at he
    exact h he

namespace PhysicalLine

/-- A piece of text is read as that text with its terminator made a newline. -/
theorem readable_ofBytes?_encode {t : Text} (h : t ≠ []) (more : List PhysicalLine) :
    readable ((ofBytes? (Text.encode t)).toList ++ more) = normalizeEnd t :: readable more := by
  obtain ⟨c, rest, hn⟩ := List.exists_cons_of_ne_nil (normalizeEnd_ne_nil h)
  rw [ofBytes?_eq_text (Text.decode?_encode t) hn, hn]
  rfl

/-- The lines of an input, one behind the other, are its text. -/
theorem flatten_readable_ofInput_encode (s : Text) :
    (readable (ofInput (Text.encode s))).flatten = normalizeEnds s := by
  induction s using line_induction '\n' with
  | nil => rfl
  | last l hne hl =>
    have hb : Text.encode l ≠ [] := by
      intro he
      have hd := Text.decode?_encode l
      rw [he] at hd
      exact hne (Option.some.inj hd).symm
    have hr := readable_ofBytes?_encode hne []
    rw [List.append_nil] at hr
    have hend : normalizeEnd l = l := by
      refine normalizeEnd_eq_self fun hs => hl ?_
      exact hs.mem (List.mem_cons_of_mem _ List.mem_cons_self)
    rw [ofInput_last hb (Text.newline_not_mem_encode hl), hr, hend, normalizeEnds_of_no_newline hl]
    exact List.append_nil l
  | ended l more hl ih =>
    have hline : Text.encode l ++ [10] = Text.encode (l ++ ['\n']) := (Text.encode_line l []).symm
    rw [Text.encode_line, ofInput_line (Text.newline_not_mem_encode hl), hline,
      readable_ofBytes?_encode (by simp), List.flatten_cons, ih, normalizeEnds_line hl]

end PhysicalLine
end CountedConfig
