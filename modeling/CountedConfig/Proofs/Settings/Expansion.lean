/-
What a path is expanded to.

A path is read from front to back as text that stands for itself and references to variables
(`Scanned`), and it can be read in this way whatever its characters are (`exists_scanned`).  It is
expanded when every reference has a value, and then `~` is taken for the home directory where the
path began with it (`expand?_eq_some_iff`); one reference without a value, wherever it stands, and
nothing is expanded (`expand?_eq_none_iff`).
-/
import CountedConfig.Proofs.Text.Split
import CountedConfig.Proofs.Text.Trim
import CountedConfig.Settings.Expansion

namespace CountedConfig
namespace Expansion

/-- A piece of a path that is to be expanded. -/
inductive Piece where
  /-- Text that stands for itself. -/
  | verbatim (t : Text)
  /-- A variable that has to be set. -/
  | reference (name : Text)
  /-- A variable, and the text that stands for it when it is not set. -/
  | withFallback (name fallback : Text)

def Piece.value? (env : Environment) : Piece → Option Text
  | .verbatim t => some t
  | .reference name => env.text? name
  | .withFallback name fallback => some ((env.text? name).getD fallback)

/-- The first piece of a path, and what stands behind it. -/
inductive Leads : Text → Piece → Text → Prop
  | plain {c : Char} {rest : Text} (hc : c ≠ '$') : Leads (c :: rest) (.verbatim [c]) rest
  | doubled {rest : Text} : Leads ('$' :: '$' :: rest) (.verbatim ['$']) rest
  /-- A dollar sign that introduces nothing. -/
  | lone {rest : Text}
    (h : ∀ c, rest.head? = some c → c ≠ '$' ∧ c ≠ '\x7b' ∧ isNameChar c = false) :
    Leads ('$' :: rest) (.verbatim ['$']) rest
  /-- A brace that is not closed. -/
  | opened {rest : Text} (h : '\x7d' ∉ rest) :
    Leads ('$' :: '\x7b' :: rest) (.verbatim ['$', '\x7b']) rest
  /-- The name in braces ends at the first mark of a fallback, unless that is at its start. -/
  | withFallback {name fallback rest : Text} (hname : name ≠ [])
    (hfirst : ¬ ":-".toList <:+: name ++ [':'])
    (hclosed : '\x7d' ∉ name ++ (":-".toList ++ fallback)) :
    Leads ('$' :: '\x7b' :: (name ++ (":-".toList ++ fallback) ++ '\x7d' :: rest))
      (.withFallback name fallback) rest
  | braced {name rest : Text} (hclosed : '\x7d' ∉ name)
    (hmark : ¬ ":-".toList <:+: name ∨ ":-".toList <+: name) :
    Leads ('$' :: '\x7b' :: (name ++ '\x7d' :: rest)) (.reference name) rest
  /-- A name without braces is as long as it can be. -/
  | named {name rest : Text} (hne : name ≠ []) (hname : ∀ c ∈ name, isNameChar c = true)
    (hend : ∀ c, rest.head? = some c → isNameChar c = false) :
    Leads ('$' :: (name ++ rest)) (.reference name) rest

/-- The pieces of a path. -/
inductive Scanned : Text → List Piece → Prop
  | nil : Scanned [] []
  | cons {p rest : Text} {piece : Piece} {pieces : List Piece} (h : Leads p piece rest)
    (hrest : Scanned rest pieces) : Scanned p (piece :: pieces)

/-! ### References in braces -/

theorem braceBody?_eq_none_iff {t : Text} : braceBody? t = none ↔ '\x7d' ∉ t := by
  induction t with
  | nil => simp [braceBody?]
  | cons c rest ih =>
    rw [braceBody?, List.mem_cons, not_or, ← ih]
    by_cases hc : c = '\x7d'
    · simp [hc]
    · simp [hc, Ne.symm hc]

theorem braceBody?_of_not_mem {body : Text} (h : '\x7d' ∉ body) (rest : Text) :
    braceBody? (body ++ '\x7d' :: rest) = some (body, rest) := by
  induction body with
  | nil => rfl
  | cons c body ih =>
    rw [List.mem_cons, not_or] at h
    rw [List.cons_append, braceBody?, if_neg (Ne.symm h.1), ih h.2, Option.map_some]

theorem braced_withFallback {name fallback : Text} (env : Environment) (hname : name ≠ [])
    (hfirst : ¬ ":-".toList <:+: name ++ [':']) :
    braced env (name ++ (":-".toList ++ fallback)) = some ((env.text? name).getD fallback) := by
  obtain ⟨c, rest, rfl⟩ := List.exists_cons_of_ne_nil hname
  have hcut : Text.cut? ":-".toList (c :: rest ++ (":-".toList ++ fallback)) =
      some (c :: rest, fallback) := (Text.cut?_eq_some_iff (by decide)).2 ⟨rfl, hfirst⟩
  rw [braced, hcut]

theorem braced_reference {name : Text} (env : Environment)
    (h : ¬ ":-".toList <:+: name ∨ ":-".toList <+: name) : braced env name = env.text? name := by
  rcases h with h | ⟨fallback, rfl⟩
  · rw [braced, Text.cut?_eq_none_iff.2 h]
  · have hcut : Text.cut? ":-".toList (":-".toList ++ fallback) = some ([], fallback) :=
      (Text.cut?_eq_some_iff (by decide)).2 ⟨rfl, by decide⟩
    rw [braced, hcut]

/-! ### One piece -/

variable {env : Environment} {p rest : Text} {piece : Piece} {pieces : List Piece}

theorem substitute_braced {body : Text} (env : Environment) (h : '\x7d' ∉ body) (rest : Text) :
    substitute env ('$' :: '\x7b' :: (body ++ '\x7d' :: rest)) =
      (braced env body).bind fun value => (substitute env rest).map (value ++ ·) := by
  have hbody := braceBody?_of_not_mem h rest
  rw [substitute.eq_def]
  simp only [ne_eq, not_true_eq_false, if_false]
  split
  · rename_i hnone
    rw [hbody] at hnone
    cases hnone
  · rename_i found after hsome
    rw [hbody] at hsome
    cases hsome
    cases hvalue : braced env body <;> simp

/-- The value of the first piece stands in front of what the rest is expanded to. -/
theorem substitute_leads (env : Environment) (h : Leads p piece rest) :
    substitute env p =
      (piece.value? env).bind fun value => (substitute env rest).map (value ++ ·) := by
  cases h with
  | plain hc =>
    rw [substitute.eq_def]
    simp only [if_pos hc]
    rfl
  | doubled =>
    rw [substitute.eq_def]
    rfl
  | lone h =>
    cases rest with
    | nil =>
      rw [substitute.eq_def]
      simp [Piece.value?, substitute]
    | cons c rest =>
      obtain ⟨hdollar, hbrace, hname⟩ := h c rfl
      rw [substitute.eq_def]
      simp [hname, Piece.value?]
  | opened h =>
    have hopen := braceBody?_eq_none_iff.2 h
    rw [substitute.eq_def]
    simp only [ne_eq, not_true_eq_false, if_false]
    split
    · rfl
    · rename_i found after hsome
      rw [hopen] at hsome
      cases hsome
  | withFallback hname hfirst hclosed =>
    rw [substitute_braced env hclosed, braced_withFallback env hname hfirst]
    rfl
  | braced hclosed hmark =>
    rw [substitute_braced env hclosed, braced_reference env hmark]
    rfl
  | @named name rest hne hname hend =>
    obtain ⟨c, more, rfl⟩ := List.exists_cons_of_ne_nil hne
    have htake := Text.takeWhile_run hname hend
    have hdrop := Text.dropWhile_run hname hend
    rw [List.cons_append] at htake hdrop ⊢
    rw [substitute.eq_def]
    simp only [ne_eq, not_true_eq_false, if_false]
    -- Neither a dollar sign nor a brace can begin a name.
    split
    · rename_i heq
      cases heq
    · rename_i heq
      cases heq
      exact absurd (hname '$' List.mem_cons_self) (by decide +kernel)
    · rename_i heq
      cases heq
      exact absurd (hname '\x7b' List.mem_cons_self) (by decide +kernel)
    · rename_i heq
      cases heq
      rw [htake, if_neg hne, hdrop, Piece.value?]
      cases hvalue : env.text? (c :: more) <;> simp

/-! ### All pieces -/

theorem exists_leads_closed {body : Text} (h : '\x7d' ∉ body) (rest : Text) :
    ∃ piece, Leads ('$' :: '\x7b' :: (body ++ '\x7d' :: rest)) piece rest := by
  cases hcut : Text.cut? ":-".toList body with
  | none => exact ⟨_, .braced h (.inl (Text.cut?_eq_none_iff.1 hcut))⟩
  | some parts =>
    obtain ⟨name, fallback⟩ := parts
    obtain ⟨rfl, hfirst⟩ := (Text.cut?_eq_some_iff (by decide)).1 hcut
    by_cases hname : name = []
    · subst hname
      exact ⟨_, .braced h (.inr (List.prefix_append _ fallback))⟩
    · exact ⟨_, .withFallback hname hfirst h⟩

theorem exists_leads_name {t : Text} (h : t.takeWhile isNameChar ≠ []) :
    ∃ piece, Leads ('$' :: t) piece (t.dropWhile isNameChar) := by
  have hname : ∀ c ∈ t.takeWhile isNameChar, isNameChar c = true :=
    List.all_eq_true.1 List.all_takeWhile
  have hleads : Leads ('$' :: (t.takeWhile isNameChar ++ t.dropWhile isNameChar))
      (.reference (t.takeWhile isNameChar)) (t.dropWhile isNameChar) :=
    .named h hname fun _ hc => Text.not_head?_dropWhile hc
  rw [List.takeWhile_append_dropWhile] at hleads
  exact ⟨_, hleads⟩

/-- Every path that is not empty has a first piece. -/
theorem exists_leads (hp : p ≠ []) : ∃ piece rest, Leads p piece rest ∧ rest.length < p.length := by
  obtain ⟨c, t, rfl⟩ := List.exists_cons_of_ne_nil hp
  by_cases hc : c = '$'
  · subst hc
    by_cases hdollar : t.head? = some '$'
    · obtain ⟨rest, rfl⟩ := List.head?_eq_some_iff.1 hdollar
      exact ⟨_, rest, .doubled, by simp only [List.length_cons]; omega⟩
    · by_cases hbrace : t.head? = some '\x7b'
      · obtain ⟨inner, rfl⟩ := List.head?_eq_some_iff.1 hbrace
        by_cases hclosed : '\x7d' ∈ inner
        · obtain ⟨body, rest, rfl, hbody⟩ := List.eq_append_cons_of_mem hclosed
          obtain ⟨piece, hleads⟩ := exists_leads_closed hbody rest
          exact ⟨piece, rest, hleads, by simp only [List.length_cons, List.length_append]; omega⟩
        · exact ⟨_, inner, .opened hclosed, by simp only [List.length_cons]; omega⟩
      · by_cases hname : t.takeWhile isNameChar = []
        · refine ⟨_, t, .lone fun d hd => ⟨?_, ?_, ?_⟩, by simp⟩
          · rintro rfl
            exact hdollar hd
          · rintro rfl
            exact hbrace hd
          · obtain ⟨rest, rfl⟩ := List.head?_eq_some_iff.1 hd
            cases hchar : isNameChar d with
            | false => rfl
            | true =>
              rw [List.takeWhile_cons_of_pos hchar] at hname
              exact absurd hname (List.cons_ne_nil _ _)
        · obtain ⟨piece, hleads⟩ := exists_leads_name hname
          have hle := (List.dropWhile_sublist isNameChar (l := t)).length_le
          exact ⟨piece, _, hleads, Nat.lt_succ_of_le hle⟩
  · exact ⟨_, t, .plain hc, by simp⟩

theorem exists_scanned (p : Text) : ∃ pieces, Scanned p pieces := by
  by_cases hp : p = []
  · subst hp
    exact ⟨[], .nil⟩
  · obtain ⟨piece, rest, hleads, hlt⟩ := exists_leads hp
    obtain ⟨pieces, hrest⟩ := exists_scanned rest
    exact ⟨piece :: pieces, .cons hleads hrest⟩
termination_by p.length

theorem substitute_nil (env : Environment) : substitute env [] = some [] := by
  rw [substitute]

/-- The values of the pieces, one behind the other. -/
theorem substitute_eq_some_iff (h : Scanned p pieces) {t : Text} :
    substitute env p = some t ↔
      ∃ values : List Text,
        pieces.map (Piece.value? env) = values.map some ∧ t = values.flatten := by
  induction h generalizing t with
  | nil =>
    rw [substitute_nil, Option.some.injEq]
    constructor
    · rintro rfl
      exact ⟨[], rfl, rfl⟩
    · rintro ⟨values, hvalues, rfl⟩
      rw [List.map_eq_nil_iff.1 hvalues.symm]
      rfl
  | @cons p rest piece pieces hleads _ ih =>
    rw [substitute_leads env hleads, Option.bind_eq_some_iff]
    constructor
    · rintro ⟨value, hvalue, hmap⟩
      obtain ⟨more, hmore, rfl⟩ := Option.map_eq_some_iff.1 hmap
      obtain ⟨values, hvalues, rfl⟩ := ih.1 hmore
      exact ⟨value :: values, by rw [List.map_cons, List.map_cons, hvalue, hvalues], rfl⟩
    · rintro ⟨values, hvalues, rfl⟩
      obtain ⟨value, more, rfl, hvalue, hmore⟩ := List.map_eq_cons_iff.1 hvalues.symm
      exact ⟨value, hvalue.symm, Option.map_eq_some_iff.2 ⟨_, ih.2 ⟨more, hmore.symm, rfl⟩, rfl⟩⟩

theorem Piece.value?_eq_none_iff :
    piece.value? env = none ↔ ∃ name, piece = .reference name ∧ env.text? name = none := by
  cases piece <;> simp [value?]

/-- One reference without a value is enough. -/
theorem substitute_eq_none_iff (h : Scanned p pieces) :
    substitute env p = none ↔ ∃ name, .reference name ∈ pieces ∧ env.text? name = none := by
  induction h with
  | nil => simp [substitute_nil]
  | @cons p rest piece pieces hleads _ ih =>
    rw [substitute_leads env hleads]
    cases hvalue : piece.value? env with
    | none =>
      obtain ⟨name, rfl, hname⟩ := Piece.value?_eq_none_iff.1 hvalue
      exact ⟨fun _ => ⟨name, List.mem_cons_self, hname⟩, fun _ => rfl⟩
    | some value =>
      rw [Option.bind_some, Option.map_eq_none_iff, ih]
      constructor
      · rintro ⟨name, hm, hname⟩
        exact ⟨name, List.mem_cons_of_mem piece hm, hname⟩
      · rintro ⟨name, hm, hname⟩
        rcases List.mem_cons.1 hm with rfl | hm
        · rw [Piece.value?, hname] at hvalue
          cases hvalue
        · exact ⟨name, hm, hname⟩

theorem substitute_eq_self (env : Environment) {t : Text} (h : '$' ∉ t) :
    substitute env t = some t := by
  induction t with
  | nil => exact substitute_nil env
  | cons c t ih =>
    rw [List.mem_cons, not_or] at h
    rw [substitute_leads env (.plain (Ne.symm h.1)), ih h.2]
    rfl

/-! ### The home directory -/

/-- A path that is the home directory or lies in it, as it is written. -/
def BelowHome (t : Text) : Prop := t = ['~'] ∨ ['~', '/'] <+: t

/-- What becomes of a path that has its values: a `~` in front stands for the home directory, but
not if it came with a value. -/
inductive AtHome (env : Environment) (written : Text) : Text → Text → Prop
  | home {home rest : Text} (hwritten : written.head? = some '~')
    (hrest : BelowHome ('~' :: rest)) (hhome : env.home? = some home) :
    AtHome env written ('~' :: rest) (home ++ rest)
  | stays {t : Text} (h : written.head? = some '~' → BelowHome t → env.home? = none) :
    AtHome env written t t

theorem belowHome_cons {rest : Text} :
    BelowHome ('~' :: rest) ↔ rest = [] ∨ ∃ more, rest = '/' :: more := by
  have hslash : ['/'] <+: rest ↔ ∃ more, rest = '/' :: more :=
    ⟨fun ⟨more, h⟩ => ⟨more, h.symm⟩, fun ⟨more, h⟩ => ⟨more, h.symm⟩⟩
  simp [BelowHome, hslash]

theorem tilde_home {home rest : Text} (hrest : BelowHome ('~' :: rest))
    (hhome : env.home? = some home) : tilde env ('~' :: rest) = home ++ rest := by
  rcases belowHome_cons.1 hrest with rfl | ⟨more, rfl⟩
  · simp [tilde, hhome]
  · simp [tilde, hhome]

theorem tilde_eq_self {t : Text} (h : BelowHome t → env.home? = none) : tilde env t = t := by
  unfold tilde
  split
  · rename_i hhome
    rw [h (.inl rfl)] at hhome
    cases hhome
  · rename_i rest home hhome
    rw [h (.inr (List.prefix_append ['~', '/'] rest))] at hhome
    cases hhome
  · rfl

theorem BelowHome.head {t : Text} (h : BelowHome t) : ∃ rest, t = '~' :: rest := by
  rcases h with rfl | ⟨rest, rfl⟩
  · exact ⟨[], rfl⟩
  · exact ⟨'/' :: rest, rfl⟩

theorem atHome_iff {written t e : Text} :
    AtHome env written t e ↔
      e = if written.head? ≠ some '~' ∧ t.head? = some '~' then t else tilde env t := by
  constructor
  · rintro (⟨hwritten, hrest, hhome⟩ | ⟨h⟩)
    · rw [if_neg (fun hne => hne.1 hwritten), tilde_home hrest hhome]
    · split
      · rfl
      · rename_i hfront
        refine (tilde_eq_self fun hbelow => h ?_ hbelow).symm
        obtain ⟨rest, rfl⟩ := hbelow.head
        exact Decidable.byContradiction fun hwritten => hfront ⟨hwritten, rfl⟩
  · rintro rfl
    split
    · rename_i hfront
      exact .stays fun hwritten => absurd hwritten hfront.1
    · rename_i hfront
      rcases Classical.em (BelowHome t) with hbelow | hbelow
      · obtain ⟨rest, rfl⟩ := hbelow.head
        cases hhome : env.home? with
        | none =>
          rw [tilde_eq_self fun _ => hhome]
          exact .stays fun _ _ => hhome
        | some home =>
          rw [tilde_home hbelow hhome]
          refine .home ?_ hbelow hhome
          exact Decidable.byContradiction fun hwritten => hfront ⟨hwritten, rfl⟩
      · rw [tilde_eq_self fun h => absurd h hbelow]
        exact .stays fun _ h => absurd h hbelow

/-! ### Paths -/

/-- The path is expanded to this one: every piece has a value, and the home directory is put in. -/
def Expanded (env : Environment) (written e : Text) : Prop :=
  ∃ (pieces : List Piece) (values : List Text), Scanned written pieces ∧
    pieces.map (Piece.value? env) = values.map some ∧ AtHome env written values.flatten e

/-- A reference in the path has no value, or one that is no text. -/
def Unset (env : Environment) (written : Text) : Prop :=
  ∃ pieces name, Scanned written pieces ∧ .reference name ∈ pieces ∧ env.text? name = none

end Expansion

open Expansion

variable {env : Environment} {written e : Text}

theorem expand?_eq_some_iff : expand? env written = some e ↔ Expanded env written e := by
  rw [expand?, Option.map_eq_some_iff]
  constructor
  · rintro ⟨t, ht, he⟩
    obtain ⟨pieces, hscan⟩ := exists_scanned written
    obtain ⟨values, hvalues, rfl⟩ := (substitute_eq_some_iff hscan).1 ht
    exact ⟨pieces, values, hscan, hvalues, atHome_iff.2 he.symm⟩
  · rintro ⟨pieces, values, hscan, hvalues, hhome⟩
    exact ⟨values.flatten, (substitute_eq_some_iff hscan).2 ⟨values, hvalues, rfl⟩,
      (atHome_iff.1 hhome).symm⟩

theorem expand?_eq_none_iff : expand? env written = none ↔ Unset env written := by
  rw [expand?, Option.map_eq_none_iff]
  constructor
  · intro h
    obtain ⟨pieces, hscan⟩ := exists_scanned written
    obtain ⟨name, hm, hname⟩ := (substitute_eq_none_iff hscan).1 h
    exact ⟨pieces, name, hscan, hm, hname⟩
  · rintro ⟨pieces, name, hscan, hm, hname⟩
    exact (substitute_eq_none_iff hscan).2 ⟨name, hm, hname⟩

/-- A path is expanded unless one of its references has no value. -/
theorem exists_expanded_iff : (∃ e, Expanded env written e) ↔ ¬ Unset env written := by
  rw [← expand?_eq_none_iff, ← ne_eq, ← Option.isSome_iff_ne_none, Option.isSome_iff_exists]
  simp only [expand?_eq_some_iff]

/-- A path without a dollar sign that is not below the home directory stands for itself. -/
theorem expand?_eq_self (env : Environment) (hdollar : '$' ∉ written)
    (hhome : ¬ BelowHome written) : expand? env written = some written := by
  rw [expand?, substitute_eq_self env hdollar, Option.map_some, ← atHome_iff.1 (.stays fun _ h =>
    absurd h hhome)]

end CountedConfig
