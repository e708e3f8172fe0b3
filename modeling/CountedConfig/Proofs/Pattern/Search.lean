/-
The first match of a pattern.

At one place a pattern can match in several ways, which come in an order.  Of a choice
the first branch comes first; an eager repetition goes on before it stops, and one that
is not eager stops before it goes on.  A search finds the first way at the first place
that has one.
-/
import CountedConfig.Pattern

namespace CountedConfig
namespace Pattern

/-- A way to match at a place. -/
structure Way where
  taken : Text
  /-- What follows the match. -/
  rest : Text
  /-- What the groups took, by their numbers. -/
  groups : List (Nat × Text)
  deriving DecidableEq, Repr

namespace Way

def stay (t : Text) : Way := ⟨[], t, []⟩

def join (w v : Way) : Way := ⟨w.taken ++ v.taken, v.rest, w.groups ++ v.groups⟩

/-- The character before what follows the match, given the one before the match. -/
def before (w : Way) (start : Option Char) : Option Char := w.taken.getLast? <|> start

end Way

/-- What a group took.  A group that was passed over took nothing. -/
def captured (groups : List (Nat × Text)) (number : Nat) : Text :=
  ((groups.find? (·.1 == number)).map (·.2)).getD []

/-- The ways to make a step again and again.  A step beyond the least number is not made
if it takes nothing, so that there are at most `bound` steps when that is the least number
and the number of characters. -/
def repetitions (step : Option Char → Text → List Way) (eager : Bool) :
    (bound least : Nat) → (most : Option Nat) → Option Char → Text → List Way
  | 0, least, _, _, t => if least = 0 then [.stay t] else []
  | bound + 1, least, most, before, t =>
    let stop := if least = 0 then [.stay t] else []
    let again :=
      if most = some 0 then []
      else ((step before t).filter fun w => least != 0 || !w.taken.isEmpty).flatMap fun w =>
        (repetitions step eager bound (least - 1) (most.map (· - 1)) (w.before before) w.rest).map
          w.join
    if eager then again ++ stop else stop ++ again

/-- The ways to match in front of a text, the first one first. -/
def ways : Pattern → (before : Option Char) → Text → List Way
  | .empty, _, t => [.stay t]
  | .text s, _, t => if s.isPrefixOf t then [⟨s, t.drop s.length, []⟩] else []
  | .one _, _, [] => []
  | .one s, _, c :: rest => if s.contains c then [⟨[c], rest, []⟩] else []
  | .look l, before, t => if l.holds before t.head? then [.stay t] else []
  | .group number p, before, t =>
    (ways p before t).map fun w => { w with groups := (number, w.taken) :: w.groups }
  | .seq p q, before, t =>
    (ways p before t).flatMap fun w => (ways q (w.before before) w.rest).map w.join
  | .either p q, before, t => ways p before t ++ ways q before t
  | .times eager p least most, before, t =>
    repetitions (ways p) eager (least + t.length) least most before t

def searchFrom (p : Pattern) (before : Option Char) : Text → Option Way
  | [] => (p.ways before []).head?
  | c :: rest => (p.ways before (c :: rest)).head? <|> searchFrom p (some c) rest

/-- The first match in a text. -/
def search (p : Pattern) (t : Text) : Option Way := p.searchFrom none t

/-! ### Rows -/

section Row

variable {α : Type} {p q : Pattern} {before : Option Char} {t : Text}

theorem findSome?_flatMap {β γ : Type} (g : β → List γ) (f : γ → Option α) (l : List β) :
    (l.flatMap g).findSome? f = l.findSome? fun b => (g b).findSome? f := by
  induction l with
  | nil => rfl
  | cons b l ih =>
    rw [List.flatMap_cons, List.findSome?_append, ih, List.findSome?_cons]
    cases (g b).findSome? f <;> rfl

theorem findSome?_ways_seq (f : Way → Option α) :
    ((seq p q).ways before t).findSome? f = (p.ways before t).findSome? fun w =>
      (q.ways (w.before before) w.rest).findSome? fun v => f (w.join v) := by
  rw [ways, findSome?_flatMap]
  simp only [List.findSome?_map, Function.comp_def]

theorem findSome?_ways_group (number : Nat) (f : Way → Option α) :
    ((group number p).ways before t).findSome? f = (p.ways before t).findSome? fun w =>
      f { w with groups := (number, w.taken) :: w.groups } := by
  rw [ways, List.findSome?_map]
  rfl

theorem findSome?_ways_text (s : Text) (f : Way → Option α) :
    ((text s).ways before t).findSome? f =
      if s.isPrefixOf t then f ⟨s, t.drop s.length, []⟩ else none := by
  rw [ways]
  split
  · exact List.findSome?_singleton
  · rfl

theorem findSome?_ways_one (s : CharSet) (c : Char) (rest : Text) (f : Way → Option α) :
    ((one s).ways before (c :: rest)).findSome? f =
      if s.contains c then f ⟨[c], rest, []⟩ else none := by
  rw [ways]
  split
  · exact List.findSome?_singleton
  · rfl

/-- A pattern that begins with the start of the text matches there or nowhere. -/
theorem search_textStart (p : Pattern) (t : Text) :
    (seq (look .textStart) p).search t = (p.ways none t).head? := by
  have hstart : (seq (look .textStart) p).ways none t = p.ways none t := by
    have hl : (look .textStart).ways none t = [.stay t] := rfl
    rw [ways, hl, List.flatMap_singleton]
    exact List.map_id _
  have hlater : ∀ c rest, (seq (look .textStart) p).searchFrom (some c) rest = none := by
    intro c rest
    induction rest generalizing c with
    | nil => rfl
    | cons d rest ih => exact ih d
  cases t with
  | nil => rw [search, searchFrom, hstart]
  | cons c rest =>
    rw [search, searchFrom, hstart, hlater]
    cases (p.ways none (c :: rest)).head? <;> rfl

end Row

/-! ### Runs of a set -/

section Run

variable {s : CharSet} {c : Char}

/-- The ways to take characters of a set one after the other, the shortest first. -/
def stretches (s : CharSet) : Text → List Way
  | [] => [.stay []]
  | c :: rest =>
    .stay (c :: rest) :: if s.contains c then (stretches s rest).map (Way.join ⟨[c], rest, []⟩) else []

theorem repetitions_one {bound : Nat} {t : Text} (h : t.length ≤ bound) (eager : Bool)
    (before : Option Char) :
    repetitions (ways (one s)) eager bound 0 none before t =
      if eager then (stretches s t).reverse else stretches s t := by
  induction t generalizing bound before with
  | nil => cases bound <;> cases eager <;> rfl
  | cons c rest ih =>
    cases bound with
    | zero => simp at h
    | succ bound =>
      cases hc : s.contains c with
      | false => cases eager <;> simp [repetitions, ways, stretches, hc]
      | true =>
        have ih := ih (Nat.le_of_succ_le_succ h)
        cases eager <;> simp [repetitions, ways, stretches, hc, ih]

/-- An eager repetition takes the longest stretch first. -/
theorem ways_many (s : CharSet) (before : Option Char) (t : Text) :
    (times true (one s) 0 none).ways before t = (stretches s t).reverse :=
  repetitions_one (Nat.le_of_eq (Nat.zero_add t.length).symm) true before

/-- Of a repetition that takes something the empty stretch is no way. -/
theorem ways_some (s : CharSet) (eager : Bool) (before : Option Char) (t : Text) :
    (times eager (one s) 1 none).ways before t =
      if eager then (stretches s t).tail.reverse else (stretches s t).tail := by
  cases t with
  | nil => cases eager <;> rfl
  | cons c rest =>
    have hrest := repetitions_one (s := s) (Nat.le_succ rest.length) eager
    rw [ways, List.length_cons, Nat.add_comm, repetitions]
    cases hc : s.contains c with
    | false => cases eager <;> simp [ways, stretches, hc]
    | true => cases eager <;> simp [ways, stretches, hc, hrest]

variable {α : Type} {f : Way → Option α}

theorem findSome?_reverse_stretches (hc : s.contains c = true) (rest : Text) :
    (stretches s (c :: rest)).reverse.findSome? f =
      ((stretches s rest).reverse.findSome? fun w => f (Way.join ⟨[c], rest, []⟩ w)).or
        (f (.stay (c :: rest))) := by
  rw [stretches, if_pos hc, List.reverse_cons, List.findSome?_append, ← List.map_reverse,
    List.findSome?_map]
  cases hstay : f (.stay (c :: rest)) <;> simp [Function.comp_def, hstay]

theorem findSome?_tail_stretches (hc : s.contains c = true) (rest : Text) :
    (stretches s (c :: rest)).tail.findSome? f =
      (f ⟨[c], rest, []⟩).or
        ((stretches s rest).tail.findSome? fun w => f (Way.join ⟨[c], rest, []⟩ w)) := by
  have hstay : stretches s rest = .stay rest :: (stretches s rest).tail := by cases rest <;> rfl
  rw [stretches, if_pos hc, List.tail_cons, List.findSome?_map, hstay, List.findSome?_cons]
  simp only [Function.comp_def, Way.join, Way.stay, List.append_nil, List.tail_cons]
  cases f ⟨[c], rest, []⟩ <;> rfl

/-- Where there is no way on before a character of the set, an eager repetition takes the
longest stretch. -/
theorem findSome?_ways_many
    (hf : ∀ taken c rest, s.contains c = true → f ⟨taken, c :: rest, []⟩ = none)
    (before : Option Char) (t : Text) :
    ((times true (one s) 0 none).ways before t).findSome? f =
      f ⟨t.takeWhile s.contains, t.dropWhile s.contains, []⟩ := by
  rw [ways_many]
  induction t generalizing f with
  | nil => simp [stretches, Way.stay]
  | cons c rest ih =>
    cases hc : s.contains c with
    | false => simp [stretches, Way.stay, hc]
    | true =>
      rw [findSome?_reverse_stretches hc, ih fun taken d more hd => hf (c :: taken) d more hd]
      have hstay : f (.stay (c :: rest)) = none := hf [] c rest hc
      rw [hstay, Option.or_none, List.takeWhile_cons_of_pos hc, List.dropWhile_cons_of_pos hc]
      rfl

theorem getLast?_stretches (s : CharSet) (t : Text) :
    (stretches s t).getLast? = some ⟨t.takeWhile s.contains, t.dropWhile s.contains, []⟩ := by
  induction t with
  | nil => rfl
  | cons c rest ih =>
    cases hc : s.contains c with
    | false => simp [stretches, Way.stay, hc]
    | true =>
      rw [stretches, if_pos hc, List.getLast?_cons, List.getLast?_map, ih,
        List.takeWhile_cons_of_pos hc, List.dropWhile_cons_of_pos hc]
      rfl

/-- Where the way on is free, a repetition that takes something takes the longest stretch. -/
theorem head?_ways_some (s : CharSet) (before : Option Char) (t : Text) :
    ((times true (one s) 1 none).ways before t).head? =
      if t.takeWhile s.contains = [] then none
      else some ⟨t.takeWhile s.contains, t.dropWhile s.contains, []⟩ := by
  rw [ways_some, if_pos rfl, List.head?_reverse]
  cases t with
  | nil => rfl
  | cons c rest =>
    cases hc : s.contains c with
    | false => simp [stretches, hc]
    | true =>
      rw [stretches, if_pos hc, List.tail_cons, List.getLast?_map, getLast?_stretches,
        List.takeWhile_cons_of_pos hc, List.dropWhile_cons_of_pos hc]
      rfl

end Run
end Pattern
end CountedConfig
