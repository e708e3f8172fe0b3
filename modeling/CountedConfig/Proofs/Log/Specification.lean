/-
What a log specification says.

The pieces of a specification stand between commas, in front of the first slash
(`Specification.Written`), and every text can be read in this way (`Specification.exists_written`).
A piece sets a threshold for one part of the program or for everything (`Directive.Sets`), or it
sets nothing: it is blank, or it is not in order.
-/
import CountedConfig.Log.Directive
import CountedConfig.Proofs.Text.Split
import CountedConfig.Proofs.Text.Trim

namespace CountedConfig

theorem toOption_eq_some_iff {ε α : Type} {x : Except ε α} {a : α} :
    x.toOption = some a ↔ x = .ok a := by
  cases x <;> simp [Except.toOption]

/-! ### Pieces -/

namespace Threshold

/-- The name of a threshold, in either case. -/
def Named (word : Text) (threshold : Threshold) : Prop :=
  word.map Char.toUpper = threshold.name

variable {word : Text} {threshold : Threshold}

theorem ofName?_eq_some_iff : ofName? word = some threshold ↔ Named word threshold := by
  constructor
  · intro h
    unfold ofName? at h
    simpa [Named] using List.find?_some h
  · intro h
    rw [Named] at h
    rw [ofName?, h]
    -- No two names are the same.
    cases threshold with
    | none => decide
    | some level => cases level <;> decide

theorem ofName?_eq_none_iff : ofName? word = none ↔ ∀ threshold, ¬ Named word threshold := by
  rw [Option.eq_none_iff_forall_ne_some]
  exact forall_congr' fun _ => not_congr ofName?_eq_some_iff

theorem name_ne_nil (threshold : Threshold) : threshold.name ≠ [] := by
  cases threshold with
  | none => decide
  | some level => cases level <;> decide

theorem equals_not_mem_name (threshold : Threshold) : '=' ∉ threshold.name := by
  cases threshold with
  | none => decide
  | some level => cases level <;> decide

theorem Named.ne_nil (h : Named word threshold) : word ≠ [] := by
  rintro rfl
  exact threshold.name_ne_nil h.symm

theorem Named.equals_not_mem (h : Named word threshold) : '=' ∉ word := by
  intro hm
  have hupper : '=' ∈ word.map Char.toUpper := List.mem_map_of_mem hm
  rw [h] at hupper
  exact threshold.equals_not_mem_name hupper

end Threshold

namespace Directive

open Threshold (Named)

/-- How a directive is written. -/
inductive Written : Text → Directive → Prop
  /-- A threshold alone is for everything. -/
  | everything {word : Text} {threshold : Threshold} (h : Named word threshold) :
    Written word ⟨none, threshold⟩
  /-- Any other word alone is a name, and all is shown of what it covers. -/
  | word {word : Text} (hne : word ≠ []) (hword : '=' ∉ word)
    (h : ∀ threshold, ¬ Named word threshold) : Written word ⟨some word, some .trace⟩
  /-- A name with nothing but blanks behind its equals sign is no different from the name alone. -/
  | unbounded {name value : Text} (hname : '=' ∉ name) (hvalue : Text.Blank value) :
    Written (name ++ '=' :: value) ⟨some name, some .trace⟩
  | bounded {name value word : Text} {threshold : Threshold} (hname : '=' ∉ name)
    (hword : Text.Trims value word) (h : Named word threshold) :
    Written (name ++ '=' :: value) ⟨some name, threshold⟩

/-- A piece sets the threshold of a name or of everything, whatever blanks stand around it. -/
def Sets (piece : Text) (d : Directive) : Prop := ∃ word, Text.Trims piece word ∧ Written word d

variable {piece word name value : Text} {d e : Directive}

theorem equals_not_mem_of_trims {threshold : Threshold} (hword : Text.Trims value word)
    (h : Named word threshold) : '=' ∉ value := by
  obtain ⟨front, back, rfl, hfront, hback⟩ := hword.split
  have hblank : Text.isBlank '=' = false := by decide
  intro hm
  rcases List.mem_append.1 hm with hm | hm
  · exact Text.ne_of_isBlank (hfront _ hm) hblank rfl
  · rcases List.mem_append.1 hm with hm | hm
    · exact h.equals_not_mem hm
    · exact Text.ne_of_isBlank (hback _ hm) hblank rfl

theorem ofPiece_of_written (h : Written word d) : ofPiece word = .ok d := by
  rw [ofPiece]
  cases h with
  | everything h =>
    rw [List.splitOn_eq_singleton h.equals_not_mem]
    dsimp only
    rw [Threshold.ofName?_eq_some_iff.2 h]
  | word _ hword h =>
    rw [List.splitOn_eq_singleton hword]
    dsimp only
    rw [Threshold.ofName?_eq_none_iff.2 h]
  | @unbounded name value hname hvalue =>
    have hequals : '=' ∉ value := fun hm => absurd (hvalue '=' hm) (by decide)
    rw [List.splitOn_append_cons_self_of_not_mem hname, List.splitOn_eq_singleton hequals]
    dsimp only
    rw [Text.trim_eq_nil_iff.2 hvalue]
  | bounded hname hword h =>
    rw [List.splitOn_append_cons_self_of_not_mem hname, List.splitOn_eq_singleton (equals_not_mem_of_trims hword h)]
    dsimp only
    rw [Text.trim_eq_iff.2 hword]
    split
    · exact absurd rfl h.ne_nil
    · rw [Threshold.ofName?_eq_some_iff.2 h]

theorem written_of_ofPiece (hne : word ≠ []) (h : ofPiece word = .ok d) : Written word d := by
  have hjoined : List.intercalate ['='] (word.splitOn '=') = word := List.intercalate_splitOn '='
  have hfree : ∀ part ∈ word.splitOn '=', '=' ∉ part := fun _ => not_mem_of_mem_splitOn
  rw [ofPiece] at h
  split at h
  · -- No equals sign: the piece is a threshold or a name.
    rename_i part hsplit
    rw [hsplit] at hjoined hfree
    rw [List.intercalate_singleton] at hjoined
    subst hjoined
    split at h
    · rename_i threshold hnamed
      cases h
      exact .everything (Threshold.ofName?_eq_some_iff.1 hnamed)
    · rename_i hnamed
      cases h
      exact .word hne (hfree part List.mem_cons_self) (Threshold.ofName?_eq_none_iff.1 hnamed)
  · rename_i name value hsplit
    rw [hsplit] at hjoined hfree
    rw [List.intercalate_cons_cons, List.intercalate_singleton, List.append_assoc,
      List.singleton_append] at hjoined
    subst hjoined
    have hname : '=' ∉ name := hfree name List.mem_cons_self
    split at h
    · rename_i htrim
      cases h
      exact .unbounded hname (Text.trim_eq_nil_iff.1 htrim)
    · split at h
      · rename_i threshold hnamed
        cases h
        exact .bounded hname (Text.trims_trim value) (Threshold.ofName?_eq_some_iff.1 hnamed)
      · cases h
  · cases h

theorem Written.ne_nil (h : Written word d) : word ≠ [] := by
  cases h with
  | everything h => exact h.ne_nil
  | word hne => exact hne
  | unbounded => exact List.append_ne_nil_of_right_ne_nil _ (List.cons_ne_nil _ _)
  | bounded => exact List.append_ne_nil_of_right_ne_nil _ (List.cons_ne_nil _ _)

/-- The directive of a piece, if it is one. -/
def set? (piece : Text) : Option Directive :=
  if Text.trim piece = [] then none else (ofPiece (Text.trim piece)).toOption

theorem set?_eq_some_iff : set? piece = some d ↔ Sets piece d := by
  rw [set?]
  constructor
  · intro h
    split at h
    · cases h
    · rename_i hne
      exact ⟨_, Text.trims_trim piece, written_of_ofPiece hne (toOption_eq_some_iff.1 h)⟩
  · rintro ⟨word, hword, hwritten⟩
    obtain rfl := Text.trim_eq_iff.2 hword
    rw [if_neg hwritten.ne_nil, ofPiece_of_written hwritten]
    rfl

theorem set?_eq_none_iff : set? piece = none ↔ ∀ d, ¬ Sets piece d := by
  rw [Option.eq_none_iff_forall_ne_some]
  exact forall_congr' fun _ => not_congr set?_eq_some_iff

instance (piece : Text) (d : Directive) : Decidable (Sets piece d) :=
  decidable_of_iff _ set?_eq_some_iff

/-- A piece sets one thing at most. -/
theorem Sets.unique (hd : Sets piece d) (he : Sets piece e) : e = d := by
  rw [← set?_eq_some_iff] at hd he
  exact Option.some.inj (he.symm.trans hd)

end Directive

/-! ### Specifications -/

namespace Specification

open Directive (Sets set?)

/-- A specification: pieces between commas, and what stands from the first slash on. -/
structure Written (spec : Text) (pieces : List Text) (behind : Text) : Prop where
  split : spec = List.intercalate [','] pieces ++ behind
  plain : ∀ piece ∈ pieces, ',' ∉ piece ∧ '/' ∉ piece
  slash : ∀ c, behind.head? = some c → c = '/'

variable {spec behind : Text} {pieces : List Text}

theorem slash_not_mem (h : ∀ piece ∈ pieces, ',' ∉ piece ∧ '/' ∉ piece) :
    '/' ∉ List.intercalate [','] pieces := by
  intro hm
  rcases mem_of_mem_intercalate hm with hc | ⟨piece, hpiece, hm⟩
  · exact absurd hc (by decide)
  · exact (h piece hpiece).2 hm

/-- Every text is a specification. -/
theorem exists_written (spec : Text) : ∃ pieces behind, Written spec pieces behind := by
  obtain ⟨first, rest, hs⟩ := List.exists_cons_of_ne_nil (List.splitOn_ne_nil '/' spec)
  have hjoined : List.intercalate ['/'] (spec.splitOn '/') = spec := List.intercalate_splitOn '/'
  have hfirst : '/' ∉ first := not_mem_of_mem_splitOn (hs ▸ List.mem_cons_self)
  have hpieces : List.intercalate [','] (first.splitOn ',') = first :=
    List.intercalate_splitOn ','
  have hplain : ∀ piece ∈ first.splitOn ',', ',' ∉ piece ∧ '/' ∉ piece := fun piece hm =>
    ⟨not_mem_of_mem_splitOn hm, fun hslash => hfirst (mem_of_mem_splitOn hm hslash)⟩
  rw [hs] at hjoined
  cases rest with
  | nil =>
    rw [List.intercalate_singleton] at hjoined
    refine ⟨first.splitOn ',', [], ?_, hplain, by simp⟩
    rw [hpieces, List.append_nil, hjoined]
  | cons second more =>
    rw [List.intercalate_cons_cons, List.append_assoc] at hjoined
    refine ⟨first.splitOn ',', '/' :: List.intercalate ['/'] (second :: more), ?_, hplain,
      by simp⟩
    rw [hpieces, ← hjoined]
    rfl

/-- The directives of the pieces, in the order in which they are written. -/
theorem filterMap_toOption (words : List Text) :
    (((words.map Text.trim).filter (· ≠ [])).map Directive.ofPiece).filterMap Except.toOption =
      words.filterMap set? := by
  induction words with
  | nil => rfl
  | cons word words ih =>
    by_cases h : Text.trim word = []
    · have hset : set? word = none := if_pos h
      rw [List.map_cons, List.filter_cons_of_neg (by simpa using h), ih,
        List.filterMap_cons_none hset]
    · have hset : set? word = (Directive.ofPiece (Text.trim word)).toOption := if_neg h
      rw [List.map_cons, List.filter_cons_of_pos (by simpa using h), List.map_cons,
        List.filterMap_cons, ih, List.filterMap_cons, hset]

theorem filterMap_split (h : ∀ piece ∈ pieces, ',' ∉ piece) :
    ((List.intercalate [','] pieces).splitOn ',').filterMap set? = pieces.filterMap set? := by
  cases pieces with
  | nil => rfl
  | cons piece more => rw [List.splitOn_intercalate ',' h (List.cons_ne_nil piece more)]

/-- A specification is refused for its second slash, and for nothing else. -/
theorem ofText?_eq_none_iff : ofText? spec = none ↔ 2 ≤ spec.count '/' := by
  have hlength := length_splitOn '/' spec
  obtain ⟨first, rest, hs⟩ := List.exists_cons_of_ne_nil (List.splitOn_ne_nil '/' spec)
  rw [hs, List.length_cons] at hlength
  rw [ofText?, hs]
  dsimp only
  by_cases hmany : 1 < rest.length
  · rw [if_pos hmany]
    exact iff_of_true rfl (by omega)
  · rw [if_neg hmany]
    exact iff_of_false (Option.some_ne_none _) (by omega)

theorem Written.split_slash (h : Written spec pieces behind) :
    ∃ rest, spec.splitOn '/' = List.intercalate [','] pieces :: rest := by
  have hfree := slash_not_mem h.plain
  rw [h.split]
  cases hbehind : behind with
  | nil => exact ⟨[], by rw [List.append_nil, List.splitOn_eq_singleton hfree]⟩
  | cons c rest =>
    obtain rfl := h.slash c (by rw [hbehind, List.head?_cons])
    exact ⟨rest.splitOn '/', List.splitOn_append_cons_self_of_not_mem hfree rest⟩

theorem Written.pieces_eq (h : Written spec pieces behind) {s : Specification}
    (hs : ofText? spec = some s) :
    (s.pieces.map Directive.ofPiece).filterMap Except.toOption = pieces.filterMap set? := by
  obtain ⟨rest, hsplit⟩ := h.split_slash
  rw [ofText?, hsplit] at hs
  dsimp only at hs
  split at hs
  · cases hs
  · cases hs
    rw [filterMap_toOption, filterMap_split fun piece hm => (h.plain piece hm).1]

/-- Pieces can be taken out of a specification. -/
theorem Written.sublist (h : Written spec pieces behind) {kept : List Text}
    (hsub : kept.Sublist pieces) : Written (List.intercalate [','] kept ++ behind) kept behind :=
  ⟨rfl, fun piece hm => h.plain piece (hsub.subset hm), h.slash⟩

theorem Written.count_slash (h : Written spec pieces behind) :
    spec.count '/' = behind.count '/' := by
  rw [h.split, List.count_append, List.count_eq_zero.2 (slash_not_mem h.plain), Nat.zero_add]

end Specification
end CountedConfig
