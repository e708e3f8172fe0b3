/-
The threshold of a specification.

The pieces are laid over the standard directive one by one, each at the place of an earlier one with
the same name.  What is in force for a name is therefore what was set for it last
(`Directives.mem_laid_iff`), and the threshold lets through what one of the directives in force lets
through.  A piece that sets nothing, or nothing that is not set again, leaves no trace in it
(`Directives.lastSet_removed`).
-/
import CountedConfig.Proofs.Log.Specification
import Mathlib.Data.List.Induction

namespace CountedConfig

/-! ### Thresholds -/

namespace Threshold

variable {a b : Threshold} {level : Level}

theorem passes_iff : a.passes level = true ↔ level.rank ≤ a.rank := decide_eq_true_iff

theorem not_passes_none (level : Level) : ¬ passes none level = true := by
  cases level <;> decide

theorem passes_max :
    (a.max b).passes level = true ↔ a.passes level = true ∨ b.passes level = true := by
  rw [passes_iff, passes_iff, passes_iff, max]
  split <;> omega

theorem eq_of_rank_eq (h : a.rank = b.rank) : a = b := by
  rcases a with _ | a <;> rcases b with _ | b
  · rfl
  · cases b <;> cases h
  · cases a <;> cases h
  · cases a <;> cases b <;> first | rfl | cases h

theorem rank_le_of_passes (h : ∀ level, a.passes level = true → b.passes level = true) :
    a.rank ≤ b.rank := by
  cases a with
  | none => exact Nat.zero_le b.rank
  | some level => exact passes_iff.1 (h level (passes_iff.2 (Nat.le_refl level.rank)))

/-- A threshold is told by what it lets through. -/
theorem ext_passes (h : ∀ level, a.passes level = true ↔ b.passes level = true) : a = b :=
  eq_of_rank_eq (Nat.le_antisymm (rank_le_of_passes fun level => (h level).1)
    (rank_le_of_passes fun level => (h level).2))

theorem eq_off_or_error_of_not_warn (h : ¬ a.passes .warn = true) : a = none ∨ a = some .error := by
  rcases a with _ | level
  · exact .inl rfl
  · cases level with
    | error => exact .inr rfl
    | _ => exact absurd (by decide) h

end Threshold

namespace Directives

open Directive (Sets set?)

variable {ds : List Directive} {d e : Directive} {piece : Text} {pieces before after : List Text}
  {name : Option Text} {level : Level} {spec behind : Text}

/-! ### One directive -/

/-- No two directives have the same name. -/
def Distinct (ds : List Directive) : Prop := ds.Pairwise fun d e => d.name ≠ e.name

theorem mem_put_iff (h : Distinct ds) : e ∈ put d ds ↔ e = d ∨ e ∈ ds ∧ e.name ≠ d.name := by
  induction ds with
  | nil => simp [put]
  | cons first rest ih =>
    obtain ⟨hfirst, hrest⟩ := List.pairwise_cons.1 h
    rw [put]
    by_cases hname : first.name = d.name
    · -- Behind the first directive with the name there is no other.
      have hother : e ∈ rest → e.name ≠ d.name := fun he => (hname ▸ hfirst e he).symm
      rw [if_pos hname, List.mem_cons, List.mem_cons]
      constructor
      · exact Or.imp_right fun he => ⟨.inr he, hother he⟩
      · rintro (rfl | ⟨rfl | he, hne⟩)
        · exact .inl rfl
        · exact absurd hname hne
        · exact .inr he
    · rw [if_neg hname, List.mem_cons, List.mem_cons, ih hrest]
      constructor
      · rintro (rfl | rfl | ⟨he, hne⟩)
        · exact .inr ⟨.inl rfl, hname⟩
        · exact .inl rfl
        · exact .inr ⟨.inr he, hne⟩
      · rintro (rfl | ⟨rfl | he, hne⟩)
        · exact .inr (.inl rfl)
        · exact .inl rfl
        · exact .inr (.inr ⟨he, hne⟩)

theorem distinct_put (h : Distinct ds) (d : Directive) : Distinct (put d ds) := by
  induction ds with
  | nil => exact List.pairwise_singleton _ d
  | cons first rest ih =>
    obtain ⟨hfirst, hrest⟩ := List.pairwise_cons.1 h
    rw [put]
    by_cases hname : first.name = d.name
    · rw [if_pos hname]
      exact List.pairwise_cons.2 ⟨fun e he => hname ▸ hfirst e he, hrest⟩
    · rw [if_neg hname]
      refine List.pairwise_cons.2 ⟨fun e he => ?_, ih hrest⟩
      rcases (mem_put_iff hrest).1 he with rfl | ⟨he, -⟩
      · exact hname
      · exact hfirst e he

/-! ### What was set last -/

/-- The pieces set nothing for a name. -/
def Leaves (pieces : List Text) (name : Option Text) : Prop :=
  ∀ piece ∈ pieces, ∀ d, Sets piece d → d.name ≠ name

/-- A piece sets the directive, and no later one sets anything for its name. -/
def LastSet (pieces : List Text) (d : Directive) : Prop :=
  ∃ before piece after, pieces = before ++ piece :: after ∧ Sets piece d ∧ Leaves after d.name

theorem leaves_cons :
    Leaves (piece :: pieces) name ↔ (∀ d, Sets piece d → d.name ≠ name) ∧ Leaves pieces name :=
  List.forall_mem_cons

theorem leaves_nil (name : Option Text) : Leaves [] name := fun _ hm => absurd hm List.not_mem_nil

theorem not_lastSet_nil (d : Directive) : ¬ LastSet [] d := by
  rintro ⟨before, piece, after, h, -⟩
  exact List.append_ne_nil_of_right_ne_nil before (List.cons_ne_nil piece after) h.symm

theorem lastSet_cons :
    LastSet (piece :: pieces) d ↔ LastSet pieces d ∨ Sets piece d ∧ Leaves pieces d.name := by
  constructor
  · rintro ⟨before, setter, after, h, hd, hafter⟩
    cases before with
    | nil =>
      obtain ⟨rfl, rfl⟩ := List.cons.inj h
      exact .inr ⟨hd, hafter⟩
    | cons first before =>
      obtain ⟨rfl, rfl⟩ := List.cons.inj h
      exact .inl ⟨before, setter, after, rfl, hd, hafter⟩
  · rintro (⟨before, setter, after, rfl, hd, hafter⟩ | ⟨hd, hpieces⟩)
    · exact ⟨piece :: before, setter, after, rfl, hd, hafter⟩
    · exact ⟨[], piece, pieces, rfl, hd, hpieces⟩

theorem lastSet_append :
    LastSet (before ++ after) d ↔ LastSet after d ∨ LastSet before d ∧ Leaves after d.name := by
  induction before with
  | nil => simp [not_lastSet_nil]
  | cons piece before ih =>
    have hleaves : Leaves (before ++ after) d.name ↔
        Leaves before d.name ∧ Leaves after d.name := List.forall_mem_append
    rw [List.cons_append, lastSet_cons, ih, lastSet_cons, hleaves, or_and_right, and_assoc,
      or_assoc]

theorem lastSet_singleton : LastSet [piece] d ↔ Sets piece d := by
  rw [lastSet_cons, or_iff_right (not_lastSet_nil d), and_iff_left (leaves_nil d.name)]

/-- What some piece sets is set last by one of them. -/
theorem exists_lastSet (h : ¬ Leaves pieces name) : ∃ d, LastSet pieces d ∧ d.name = name := by
  induction pieces with
  | nil => exact absurd (leaves_nil name) h
  | cons piece pieces ih =>
    by_cases hlater : Leaves pieces name
    · rw [leaves_cons, and_iff_left hlater] at h
      obtain ⟨d, hnot⟩ := not_forall.1 h
      obtain ⟨hd, hname⟩ := Classical.not_imp.1 hnot
      obtain rfl := not_not.1 hname
      exact ⟨d, lastSet_cons.2 (.inr ⟨hd, hlater⟩), rfl⟩
    · obtain ⟨d, hd, hname⟩ := ih hlater
      exact ⟨d, lastSet_cons.2 (.inl hd), hname⟩

/-- A piece that sets nothing but what is set again counts for nothing. -/
theorem lastSet_removed (h : ∀ e, Sets piece e → ¬ Leaves after e.name) :
    LastSet (before ++ piece :: after) d ↔ LastSet (before ++ after) d := by
  have hpiece : ¬ (Sets piece d ∧ Leaves after d.name) := fun ⟨hd, hafter⟩ => h d hd hafter
  have hleaves : Leaves (piece :: after) d.name ↔ Leaves after d.name := by
    rw [leaves_cons, and_iff_right_iff_imp]
    intro hafter e he hname
    exact h e he (hname ▸ hafter)
  rw [lastSet_append, lastSet_append, lastSet_cons, or_iff_left hpiece, hleaves]

/-! ### The directives in force -/

/-- The directives of the pieces, each laid over those before it. -/
def laid (pieces : List Text) : List Directive :=
  (pieces.filterMap set?).foldl (fun ds d => put d ds) []

theorem laid_concat_of_sets (h : Sets piece d) (pieces : List Text) :
    laid (pieces ++ [piece]) = put d (laid pieces) := by
  rw [laid, List.filterMap_append, List.filterMap_cons_some (Directive.set?_eq_some_iff.2 h),
    List.filterMap_nil, List.foldl_append, List.foldl_cons, List.foldl_nil, laid]

theorem laid_concat_of_not_sets (h : ∀ d, ¬ Sets piece d) (pieces : List Text) :
    laid (pieces ++ [piece]) = laid pieces := by
  rw [laid, List.filterMap_append, List.filterMap_cons_none (Directive.set?_eq_none_iff.2 h),
    List.filterMap_nil, List.append_nil, laid]

theorem distinct_laid (pieces : List Text) : Distinct (laid pieces) := by
  induction pieces using List.reverseRecOn with
  | nil => exact List.Pairwise.nil
  | append_singleton pieces piece ih =>
    by_cases h : ∃ d, Sets piece d
    · obtain ⟨d, hd⟩ := h
      rw [laid_concat_of_sets hd]
      exact distinct_put ih d
    · rw [laid_concat_of_not_sets (not_exists.1 h)]
      exact ih

/-- In force is what was set last for its name. -/
theorem mem_laid_iff : d ∈ laid pieces ↔ LastSet pieces d := by
  induction pieces using List.reverseRecOn with
  | nil => exact iff_of_false List.not_mem_nil (not_lastSet_nil d)
  | append_singleton pieces piece ih =>
    rw [lastSet_append, lastSet_singleton, leaves_cons, and_iff_left (leaves_nil d.name), ← ih]
    by_cases h : ∃ e, Sets piece e
    · obtain ⟨e, he⟩ := h
      have hsets : Sets piece d ↔ d = e := ⟨fun hd => he.unique hd, fun heq => heq ▸ he⟩
      have hleaves : (∀ c, Sets piece c → c.name ≠ d.name) ↔ d.name ≠ e.name :=
        ⟨fun hall => (hall e he).symm, fun hne c hc => he.unique hc ▸ hne.symm⟩
      rw [laid_concat_of_sets he, mem_put_iff (distinct_laid pieces), hsets, hleaves]
    · have hnone := not_exists.1 h
      rw [laid_concat_of_not_sets hnone, or_iff_right (hnone d), and_iff_left]
      exact fun c hc => absurd hc (hnone c)

theorem passes_foldl (t : Threshold) :
    (ds.foldl (fun t d => t.max d.threshold) t).passes level = true ↔
      t.passes level = true ∨ ∃ d ∈ ds, d.threshold.passes level = true := by
  induction ds generalizing t with
  | nil => simp
  | cons d ds ih =>
    rw [List.foldl_cons, ih, Threshold.passes_max, or_assoc]
    simp only [List.mem_cons, exists_eq_or_imp]

theorem passes_threshold_iff {ds : Directives} :
    ds.threshold.passes level = true ↔ ∃ d ∈ ds.all, d.threshold.passes level = true := by
  rw [threshold, passes_foldl, or_iff_right (Threshold.not_passes_none level)]

/-! ### A whole specification -/

theorem ofSpecification_of_slashes (h : 2 ≤ spec.count '/') : ofSpecification spec = standard := by
  rw [ofSpecification, read, Specification.ofText?_eq_none_iff.2 h]

/-- The standard directive is that of a piece in front of all others. -/
theorem all_ofSpecification (h : Specification.Written spec pieces behind)
    (hslash : spec.count '/' < 2) :
    (ofSpecification spec).all = laid ("WARN".toList :: pieces) := by
  have hsome : Specification.ofText? spec ≠ none := fun hnone =>
    absurd (Specification.ofText?_eq_none_iff.1 hnone) (Nat.not_le.2 hslash)
  obtain ⟨s, hs⟩ := Option.ne_none_iff_exists'.1 hsome
  have hwarn : set? "WARN".toList = some ⟨none, some .warn⟩ := by decide
  rw [ofSpecification, read, hs]
  dsimp only
  rw [h.pieces_eq hs, laid, List.filterMap_cons_some hwarn]
  rfl

theorem passes_threshold_ofSpecification (h : Specification.Written spec pieces behind)
    (hslash : spec.count '/' < 2) :
    (ofSpecification spec).threshold.passes level = true ↔
      ∃ d, LastSet ("WARN".toList :: pieces) d ∧ d.threshold.passes level = true := by
  rw [passes_threshold_iff, all_ofSpecification h hslash]
  simp only [mem_laid_iff]

theorem threshold_of_slashes (h : 2 ≤ spec.count '/') :
    (ofSpecification spec).threshold = some .warn := by
  rw [ofSpecification_of_slashes h]
  rfl

/-- Warnings are kept back by the last piece that is for everything, and by nothing else. -/
theorem lastSet_of_rank_lt (h : Specification.Written spec pieces behind)
    (hrank : (ofSpecification spec).threshold.rank < Level.warn.rank) :
    spec.count '/' < 2 ∧ ∃ t, LastSet pieces ⟨none, t⟩ ∧ (t = none ∨ t = some .error) := by
  have hslash : spec.count '/' < 2 := by
    rcases Nat.lt_or_ge (spec.count '/') 2 with hslash | hslash
    · exact hslash
    · rw [threshold_of_slashes hslash] at hrank
      exact absurd hrank (Nat.lt_irrefl Level.warn.rank)
  have hwarn : ∀ d, LastSet ("WARN".toList :: pieces) d → ¬ d.threshold.passes .warn = true := by
    intro d hd hpasses
    have hshown := (passes_threshold_ofSpecification h hslash).2 ⟨d, hd, hpasses⟩
    exact Nat.not_le.2 hrank (Threshold.passes_iff.1 hshown)
  refine ⟨hslash, ?_⟩
  by_cases hleaves : Leaves pieces none
  · have hstandard : LastSet ("WARN".toList :: pieces) ⟨none, some .warn⟩ :=
      lastSet_cons.2 (.inr ⟨by decide, hleaves⟩)
    exact absurd (by decide) (hwarn _ hstandard)
  · obtain ⟨⟨_, t⟩, hd, rfl⟩ := exists_lastSet hleaves
    exact ⟨t, hd, Threshold.eq_off_or_error_of_not_warn (hwarn _ (lastSet_cons.2 (.inl hd)))⟩

/-- A specification has the same threshold without a piece that counts for nothing. -/
theorem threshold_removed (h : Specification.Written spec (before ++ piece :: after) behind)
    (hpiece : ∀ e, Sets piece e → ¬ Leaves after e.name) :
    (ofSpecification (List.intercalate [','] (before ++ after) ++ behind)).threshold =
      (ofSpecification spec).threshold := by
  have hremoved := h.sublist ((List.sublist_cons_self piece after).append_left before)
  have hcount := hremoved.count_slash.trans h.count_slash.symm
  rcases Nat.lt_or_ge (spec.count '/') 2 with hslash | hslash
  · refine Threshold.ext_passes fun level => ?_
    rw [passes_threshold_ofSpecification hremoved (hcount ▸ hslash),
      passes_threshold_ofSpecification h hslash]
    simp only [← List.cons_append, lastSet_removed hpiece]
  · rw [threshold_of_slashes hslash, threshold_of_slashes (hcount ▸ hslash)]

/-- Every text is a specification, pieces between commas with `WARN` in front of them, and its
threshold lets through what the last setting of some name lets through.  Warnings are kept back only
where the last piece that is for everything is `OFF` or `ERROR`.  A piece that is not in order, or
whose name is set again, can be taken out.  With a second slash the threshold is at warnings. -/
theorem threshold_ofSpecification (spec : Text) :
    (∃ pieces behind, Specification.Written spec pieces behind) ∧
      (2 ≤ spec.count '/' → (ofSpecification spec).threshold = some .warn) ∧
      ∀ pieces behind, Specification.Written spec pieces behind →
        (spec.count '/' < 2 → ∀ level, (ofSpecification spec).threshold.passes level = true ↔
          ∃ d, LastSet ("WARN".toList :: pieces) d ∧ d.threshold.passes level = true) ∧
        ((ofSpecification spec).threshold.rank < Level.warn.rank →
          spec.count '/' < 2 ∧ ∃ t, LastSet pieces ⟨none, t⟩ ∧ (t = none ∨ t = some .error)) ∧
        ∀ before piece after, pieces = before ++ piece :: after →
          ((∀ d, ¬ Sets piece d) ∨
            ∃ d, Sets piece d ∧ ∃ later ∈ after, ∃ e, Sets later e ∧ e.name = d.name) →
          (ofSpecification (List.intercalate [','] (before ++ after) ++ behind)).threshold =
            (ofSpecification spec).threshold := by
  refine ⟨Specification.exists_written spec, threshold_of_slashes, fun pieces behind h =>
    ⟨fun hslash level => passes_threshold_ofSpecification h hslash, lastSet_of_rank_lt h, ?_⟩⟩
  rintro before piece after rfl hpiece
  refine threshold_removed h fun c hc hleaves => ?_
  rcases hpiece with hnone | ⟨d, hd, later, hlater, e, he, hname⟩
  · exact hnone c hc
  · obtain rfl := hd.unique hc
    exact hleaves later hlater e he hname

/-- One of five pieces is not in order, and the name of another is set again.  The threshold is the
same without either. -/
theorem threshold_ofSpecification_errors :
    let spec := "debug, x=off=,x , x= Off,Error/w".toList
    let pieces := ["debug".toList, " x=off=".toList, "x ".toList, " x= Off".toList, "Error".toList]
    Specification.Written spec pieces "/w".toList ∧ spec.count '/' < 2 ∧
      (ofSpecification spec).threshold.rank < Level.warn.rank ∧
      (∃ t, LastSet pieces ⟨none, t⟩ ∧ (t = none ∨ t = some .error)) ∧
      (∀ d, ¬ Sets " x=off=".toList d) ∧
      (ofSpecification "debug,x , x= Off,Error/w".toList).threshold =
        (ofSpecification spec).threshold ∧
      Sets "x ".toList ⟨some ['x'], some .trace⟩ ∧ Sets " x= Off".toList ⟨some ['x'], none⟩ ∧
      (ofSpecification "debug, x=off=, x= Off,Error/w".toList).threshold =
        (ofSpecification spec).threshold := by
  intro spec pieces
  have hwritten : Specification.Written spec pieces "/w".toList :=
    ⟨by decide +zetaReduce, by decide +zetaReduce, fun _ hc => (Option.some.inj hc).symm⟩
  have hslash : spec.count '/' < 2 := by decide +zetaReduce
  have hrank : (ofSpecification spec).threshold.rank < Level.warn.rank := by
    decide +kernel +zetaReduce
  have hinvalid : ∀ d, ¬ Sets " x=off=".toList d := Directive.set?_eq_none_iff.1 (by decide)
  have htrace : Sets "x ".toList ⟨some ['x'], some .trace⟩ := by decide
  have hoff : Sets " x= Off".toList ⟨some ['x'], none⟩ := by decide
  obtain ⟨-, hlast, hremoved⟩ := (threshold_ofSpecification spec).2.2 pieces _ hwritten
  have hx := hremoved ["debug".toList, " x=off=".toList] "x ".toList
    [" x= Off".toList, "Error".toList] rfl
    (.inr ⟨_, htrace, " x= Off".toList, List.mem_cons_self, _, hoff, rfl⟩)
  have hfault := hremoved ["debug".toList] " x=off=".toList
    ["x ".toList, " x= Off".toList, "Error".toList] rfl (.inl hinvalid)
  exact ⟨hwritten, hslash, hrank, (hlast hrank).2, hinvalid, hfault, htrace, hoff, hx⟩

end Directives
end CountedConfig
