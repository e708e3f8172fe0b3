/-
The key of an assignment.

A text can often be cut in front of an operator in more than one place.  `Keyed` says
that a key can be cut off there, and the search finds the shortest key of all that can
(`shortestKey?_eq_some_iff`).
-/
import CountedConfig.Line.Kind

namespace CountedConfig

/-- The text begins with `key`, which holds no blank, and `p` accepts `a` past the blanks
behind the key. -/
structure Keyed {α : Type} (p : Text → Option α) (t key : Text) (a : α) : Prop where
  nonempty : key ≠ []
  visible : ∀ c ∈ key, Text.isBlank c = false
  accepted : ∃ rest, t = key ++ rest ∧ p (Text.dropBlanks rest) = some a

variable {α : Type} {p : Text → Option α}

theorem keyed_singleton {c : Char} {rest : Text} {a : α} (hc : Text.isBlank c = false)
    (h : p (Text.dropBlanks rest) = some a) : Keyed p (c :: rest) [c] a :=
  ⟨by simp, by simpa using hc, rest, rfl, h⟩

theorem Keyed.cons {c : Char} {rest key : Text} {a : α} (hc : Text.isBlank c = false)
    (h : Keyed p rest key a) : Keyed p (c :: rest) (c :: key) a := by
  obtain ⟨_, hv, behind, rfl, ha⟩ := h
  exact ⟨by simp, by simpa using ⟨hc, hv⟩, behind, rfl, ha⟩

/-- A key of a text begins with the first character, and the rest of it is nothing or a
key of what follows. -/
theorem Keyed.of_cons {c : Char} {rest key : Text} {a : α} (h : Keyed p (c :: rest) key a) :
    Text.isBlank c = false ∧ ∃ more, key = c :: more ∧
      ((more = [] ∧ p (Text.dropBlanks rest) = some a) ∨ Keyed p rest more a) := by
  obtain ⟨hne, hv, behind, ht, ha⟩ := h
  obtain ⟨d, more, rfl⟩ := List.exists_cons_of_ne_nil hne
  simp only [List.cons_append, List.cons.injEq] at ht
  obtain ⟨rfl, rfl⟩ := ht
  refine ⟨hv c List.mem_cons_self, more, rfl, ?_⟩
  by_cases hm : more = []
  · subst hm
    exact .inl ⟨rfl, ha⟩
  · exact .inr ⟨hm, fun d hd => hv d (List.mem_cons_of_mem c hd), behind, rfl, ha⟩

theorem not_keyed_nil (key : Text) (a : α) : ¬ Keyed p [] key a := by
  rintro ⟨hne, -, rest, ht, -⟩
  exact hne (List.append_eq_nil_iff.1 ht.symm).1

/-- The key that is found can be cut off, and no shorter one can. -/
theorem shortestKey?_eq_some_iff {t key : Text} {a : α} :
    shortestKey? p t = some (key, a) ↔
      Keyed p t key a ∧ ∀ other b, Keyed p t other b → key.length ≤ other.length := by
  induction t generalizing key with
  | nil => simp [shortestKey?, not_keyed_nil]
  | cons c rest ih =>
    rw [shortestKey?]
    cases hc : Text.isBlank c with
    | true =>
      simp only [if_true, reduceCtorEq, false_iff]
      intro h
      rw [h.1.of_cons.1] at hc
      exact absurd hc (by decide)
    | false =>
      cases hp : p (Text.dropBlanks rest) with
      | some b =>
        simp only [Bool.false_eq_true, if_false, Option.some.injEq, Prod.mk.injEq]
        constructor
        · rintro ⟨rfl, rfl⟩
          exact ⟨keyed_singleton hc hp, fun other b h => List.length_pos_iff.2 h.nonempty⟩
        · intro ⟨h, hmin⟩
          have hl : key.length ≤ 1 := hmin [c] b (keyed_singleton hc hp)
          obtain ⟨-, more, rfl, hmore⟩ := h.of_cons
          obtain rfl : more = [] := List.length_eq_zero_iff.1 (by simpa using hl)
          rcases hmore with ⟨-, ha⟩ | hk
          · rw [hp] at ha
            exact ⟨rfl, Option.some.inj ha⟩
          · exact absurd rfl hk.nonempty
      | none =>
        simp only [Bool.false_eq_true, if_false, Option.map_eq_some_iff, Prod.mk.injEq,
          Prod.exists]
        constructor
        · rintro ⟨more, b, h, rfl, rfl⟩
          obtain ⟨hk, hmin⟩ := ih.1 h
          refine ⟨hk.cons hc, fun other b ho => ?_⟩
          obtain ⟨-, others, rfl, ⟨-, hb⟩ | ho⟩ := ho.of_cons
          · simp [hp] at hb
          · simpa using hmin others b ho
        · intro ⟨h, hmin⟩
          obtain ⟨-, more, rfl, ⟨-, ha⟩ | h⟩ := h.of_cons
          · simp [hp] at ha
          · refine ⟨more, a, ih.2 ⟨h, fun other b ho => ?_⟩, rfl, rfl⟩
            simpa using hmin (c :: other) b (ho.cons hc)

end CountedConfig
