/-
The patterns of a line.

A line is held against a pattern for comments and then against one pattern for each form,
and the first one that matches tells what the line is.  What a key and a value are follows
from how a search goes on: a key takes as little as it can, blanks and values take as much
as they can.  The meaning of a line is the one that is found in this way
(`LineKind.ofLine_eq_matched`).
-/
import CountedConfig.Line.Kind
import CountedConfig.Proofs.Line.Counted
import CountedConfig.Proofs.Pattern.Search
import CountedConfig.Proofs.Text.Trim

namespace CountedConfig

open Pattern (Way)
open Text (Runs)

/-! ### Sets -/

namespace CharSet

/-- `\s` -/
def blanks : CharSet := ⟨Text.blankRuns⟩

/-- `\S` -/
def visible : CharSet := compl blanks

/-- `.` -/
def inLine : CharSet := compl (single '\n')

theorem contains_cons (first last : Nat) (more : Runs) (c : Char) :
    contains ⟨(first, last) :: more⟩ c = true ↔
      first ≤ c.toNat ∧ (c.toNat ≤ last ∨ contains ⟨more⟩ c = true) := by
  simp only [contains, Text.inRuns, Bool.and_eq_true, Bool.or_eq_true, decide_eq_true_eq]

theorem contains_nil (c : Char) : contains ⟨[]⟩ c = false := rfl

theorem toNat_le_maximum (c : Char) : c.toNat ≤ Runs.maximum := by
  rcases c.valid with h | h
  · exact Nat.le_of_lt (Nat.lt_trans h (by decide))
  · exact Nat.le_of_lt_succ h.2

theorem contains_blanks : blanks.contains = Text.isBlank := rfl

theorem contains_visible (c : Char) : visible.contains c = !Text.isBlank c := by
  have hruns : visible = ⟨[(0, 8), (14, 31), (33, 132), (134, 159), (161, 5759), (5761, 8191),
      (8203, 8231), (8234, 8238), (8240, 8286), (8288, 12287), (12289, Runs.maximum)]⟩ := by decide
  have hc := toNat_le_maximum c
  rw [hruns, ← contains_blanks, blanks, Text.blankRuns, Bool.eq_iff_iff, Bool.not_eq_true',
    ← Bool.not_eq_true]
  simp only [contains_cons, contains_nil, Bool.false_eq_true, or_false]
  omega

theorem contains_inLine : inLine.contains = (· != '\n') := by
  have hruns : inLine = ⟨[(0, 9), (11, Runs.maximum)]⟩ := by decide
  have hn : '\n'.toNat = 10 := rfl
  funext c
  have hc := toNat_le_maximum c
  rw [hruns, Bool.eq_iff_iff, bne_iff_ne, ne_eq, ← Char.toNat_inj, hn]
  simp only [contains_cons, contains_nil, Bool.false_eq_true, or_false]
  omega

theorem contains_digit : digit.contains = Char.isDigit := by
  funext c
  rw [Bool.eq_iff_iff, Char.isDigit_iff_toNat, digit, range, contains_cons, contains_nil]
  simp only [Bool.false_eq_true, or_false]

theorem contains_range_digit (c : Char) : (range '1' '9').contains c = (c.isDigit && c != '0') := by
  have h0 : '0'.toNat = 48 := rfl
  have h1 : '1'.toNat = 49 := rfl
  rw [Bool.eq_iff_iff, Bool.and_eq_true, Char.isDigit_iff_toNat, bne_iff_ne, ne_eq,
    ← Char.toNat_inj, range, contains_cons, contains_nil, h0, h1]
  simp only [Bool.false_eq_true, or_false]
  omega

end CharSet

namespace CountUnit

/-- `[lL]` or `[cC]` -/
def letterSet : CountUnit → CharSet
  | .lines => ⟨[('L'.toNat, 'L'.toNat), ('l'.toNat, 'l'.toNat)]⟩
  | .characters => ⟨[('C'.toNat, 'C'.toNat), ('c'.toNat, 'c'.toNat)]⟩

theorem contains_letterSet (unit : CountUnit) (c : Char) :
    unit.letterSet.contains c = unit.isLetter c := by
  have hl : 'L'.toNat ≤ 'l'.toNat := by decide
  have hc : 'C'.toNat ≤ 'c'.toNat := by decide
  rw [Bool.eq_iff_iff]
  cases unit <;>
    simp only [letterSet, isLetter, CharSet.contains_cons, CharSet.contains_nil, Bool.or_eq_true,
      beq_iff_eq, ← Char.toNat_inj, Bool.false_eq_true, or_false] <;>
    omega

end CountUnit

/-! ### Patterns -/

namespace Pattern

/-- `\s*` -/
def manyBlanks : Pattern := .times true (.one .blanks) 0 none

/-- `(\s*.+)` -/
def value (number : Nat) : Pattern :=
  .group number (.seq manyBlanks (.times true (.one .inLine) 1 none))

/-- `([1-9][0-9]*)` -/
def count (number : Nat) : Pattern :=
  .group number (.seq (.one (.range '1' '9')) (.times true (.one .digit) 0 none))

/-- `(\S+?)` -/
def key (number : Nat) : Pattern := .group number (.times false (.one .visible) 1 none)

end Pattern

namespace Form

def operand : Form → Pattern
  | .counted unit =>
    .seq (.text [':']) (.seq (.count 2) (.seq (.one unit.letterSet) (.seq (.text ['=']) (.value 3))))
  | .raw => .seq (.text [':', '=']) (.value 2)
  | .simple => .seq (.text ['=']) (.value 2)

/-- `^\s*(\S+?)\s*` and the operand. -/
def pattern (form : Form) : Pattern :=
  .seq (.look .textStart) (.seq .manyBlanks (.seq (.key 1) (.seq .manyBlanks form.operand)))

/-- What a match of the pattern of a form means, by what its groups took. -/
def meaning (form : Form) (groups : List (Nat × Text)) : LineKind :=
  let group := Pattern.captured groups
  match form with
  | .counted unit => .counted unit (group 1) (min maxCount (Text.toNat (group 2))) (group 3)
  | .raw => .plain .raw (group 1) (Text.dropLineBreaks (group 2))
  | .simple => .plain .simple (group 1) (unquote (Text.dropLineBreaks (group 2)))

end Form

/-- `^\s*#` -/
def commentPattern : Pattern := .seq (.look .textStart) (.seq .manyBlanks (.text ['#']))

/-- The meaning of a line by the first pattern that matches. -/
def LineKind.matched (line : Text) : LineKind :=
  if (commentPattern.search line).isSome then .comment
  else match Form.byPriority.findSome? fun form =>
      (form.pattern.search line).map fun w => form.meaning w.groups with
    | some kind => kind
    | none => if Text.trim line = [] then .blank else .unrecognized

/-! ### Values and operators from front to back -/

theorem value?_cons_of_visible {c : Char} (hc : Text.isBlank c = false) (rest : Text) :
    value? (c :: rest) = some ((c :: rest).takeWhile (· != '\n')) := by
  have hn : c ≠ '\n' := (Text.ne_of_isBlank (by decide) hc).symm
  simp [value?, Text.dropBlanks, hc, hn]

/-- A blank comes before the value behind it.  Where there is none it is one itself, unless
it is a newline. -/
theorem value?_cons_of_blank {c : Char} (hc : Text.isBlank c = true) (rest : Text) :
    value? (c :: rest) =
      ((value? rest).map (c :: ·)).or (if c = '\n' then none else some [c]) := by
  by_cases hn : rest.all (· == '\n') = true
  · have hnone := value?_eq_none_iff.2 hn
    have hblank : rest.all Text.isBlank = true := List.all_eq_true.2 fun d hd => by
      rw [beq_iff_eq.1 (List.all_eq_true.1 hn d hd)]
      decide
    have hdrop : Text.dropTrailing (· == '\n') (c :: rest) = Text.dropTrailing (· == '\n') [c] :=
      Text.dropTrailing_append (List.all_eq_true.1 hn) [c]
    rw [hnone, value?, hdrop, List.all_cons, List.all_cons, hn, hc, hblank]
    by_cases hcn : c = '\n'
    · simp [hcn]
    · simp [hcn, Text.dropTrailing]
  · have hcons : (c :: rest).all (· == '\n') = false := by
      rw [List.all_cons, Bool.eq_false_iff.2 hn, Bool.and_false]
    rw [value?, value?, if_neg hn, hcons, List.all_cons, hc, Bool.true_and]
    by_cases hb : rest.all Text.isBlank = true
    · have hne : Text.dropTrailing (· == '\n') rest ≠ [] := fun he => by
        obtain ⟨s, hs, hall⟩ := (Text.strips_dropTrailing (· == '\n') rest).split
        rw [he, List.nil_append] at hs
        exact hn (List.all_eq_true.2 (hs ▸ hall))
      have hdrop := Text.dropTrailing_cons hne c
      simp [hb, hdrop]
    · simp [hb, hc, Text.dropBlanks]

theorem takeWhile_of_value?_eq_none {t : Text} (h : value? t = none) :
    t.takeWhile (· != '\n') = [] := by
  cases t with
  | nil => rfl
  | cons c rest =>
    have hn := value?_eq_none_iff.1 h
    rw [List.all_cons, Bool.and_eq_true, beq_iff_eq] at hn
    exact List.takeWhile_cons_of_neg (by simp [hn.1])

/-- The digits of a count at the front of a text, and what follows them. -/
def digits? : Text → Option (Text × Text)
  | [] => none
  | c :: rest =>
    if c.isDigit && c != '0' then
      some ((c :: rest).takeWhile Char.isDigit, (c :: rest).dropWhile Char.isDigit)
    else none

/-- What follows the letter of the unit and the sign behind it. -/
def CountUnit.tail? (unit : CountUnit) : Text → Option Text
  | letter :: '=' :: tail => if unit.isLetter letter then some tail else none
  | _ => none

theorem CountUnit.tail?_cons (unit : CountUnit) (letter : Char) (t : Text) :
    unit.tail? (letter :: t) =
      if unit.isLetter letter && ['='].isPrefixOf t then some (t.drop 1) else none := by
  rcases t with _ | ⟨d, tail⟩
  · simp [tail?]
  · by_cases hd : d = '='
    · simp [tail?, hd]
    · simp [tail?, hd, Ne.symm hd]

theorem readCount?_eq (t : Text) :
    readCount? t = (digits? t).map fun (digits, rest) => (min maxCount (Text.toNat digits), rest) := by
  rcases t with _ | ⟨c, rest⟩
  · rfl
  · rw [readCount?, digits?]
    split <;> rfl

namespace Form

theorem operator?_counted (unit : CountUnit) (t : Text) :
    (counted unit).operator? t = if [':'].isPrefixOf t then
      (digits? (t.drop 1)).bind fun (digits, rest) =>
        (unit.tail? rest).map fun tail => (.counted unit (min maxCount (Text.toNat digits)), tail)
      else none := by
  rcases t with _ | ⟨c, t⟩
  · rfl
  · by_cases hc : c = ':'
    · subst hc
      have hprefix : [':'].isPrefixOf (':' :: t) = true := rfl
      rw [operator?, readCount?_eq, if_pos hprefix, List.drop_one, List.tail_cons]
      rcases digits? t with _ | ⟨digits, _ | ⟨letter, _ | ⟨d, tail⟩⟩⟩
      · rfl
      · rfl
      · rfl
      · by_cases hd : d = '='
        · subst hd
          cases hl : unit.isLetter letter <;> simp [CountUnit.tail?, hl]
        · simp [CountUnit.tail?, hd]
    · simp [operator?, hc, Ne.symm hc]

theorem operator?_raw (t : Text) :
    raw.operator? t = if [':', '='].isPrefixOf t then some (.raw, t.drop 2) else none := by
  rcases t with _ | ⟨c, _ | ⟨d, t⟩⟩
  · rfl
  · simp [operator?]
  · by_cases hc : c = ':'
    · by_cases hd : d = '='
      · simp [operator?, hc, hd]
      · simp [operator?, hd, Ne.symm hd]
    · simp [operator?, hc, Ne.symm hc]

theorem operator?_simple (t : Text) :
    simple.operator? t = if ['='].isPrefixOf t then some (.simple, t.drop 1) else none := by
  rcases t with _ | ⟨c, t⟩
  · rfl
  · by_cases hc : c = '='
    · simp [operator?, hc]
    · simp [operator?, hc, Ne.symm hc]

end Form

/-! ### Matches -/

namespace Pattern

variable {α : Type} {before : Option Char}

theorem map_search_textStart (p : Pattern) (g : List (Nat × Text) → α) (t : Text) :
    ((seq (.look .textStart) p).search t).map (fun w => g w.groups) =
      (p.ways none t).findSome? fun w => some (g w.groups) := by
  rw [search_textStart]
  cases p.ways none t <;> rfl

/-- Of the stretches of blanks the longest one behind which a line has something gives the
value. -/
theorem findSome?_stretches_value {f : Way → Option α} {g : Text → α}
    (hf : ∀ taken rest, f ⟨taken, rest, []⟩ =
      if rest.takeWhile (· != '\n') = [] then none
      else some (g (taken ++ rest.takeWhile (· != '\n')))) (t : Text) :
    (stretches .blanks t).reverse.findSome? f = (value? t).map g := by
  -- A blank in front makes every stretch behind it longer, so `f` and `g` change with it.
  induction t generalizing f g with
  | nil => simp [stretches, Way.stay, hf, value?]
  | cons c rest ih =>
    cases hc : Text.isBlank c with
    | false =>
      have hvalue := value?_cons_of_visible hc rest
      have hstretch : stretches .blanks (c :: rest) = [.stay (c :: rest)] := by
        simp [stretches, CharSet.contains_blanks, hc]
      have hn : c ≠ '\n' := (Text.ne_of_isBlank (by decide) hc).symm
      rw [hvalue, hstretch]
      simp [Way.stay, hf, hn]
    | true =>
      have hrest := ih (f := fun w => f (Way.join ⟨[c], rest, []⟩ w)) (g := fun v => g (c :: v))
        fun taken more => hf (c :: taken) more
      have hmore : CharSet.blanks.contains c = true := hc
      rw [findSome?_reverse_stretches hmore, hrest, value?_cons_of_blank hc]
      cases hv : value? rest with
      | some v => rfl
      | none =>
        -- Nothing is on the line behind the blank.
        have hline : (c :: rest).takeWhile (· != '\n') = if c = '\n' then [] else [c] := by
          rw [List.takeWhile_cons, takeWhile_of_value?_eq_none hv]
          simp
        have hstay := hf [] (c :: rest)
        rw [hline] at hstay
        rw [Way.stay, hstay]
        by_cases hn : c = '\n' <;> simp [hn]

theorem findSome?_value (number : Nat) (g : List (Nat × Text) → α) (t : Text) :
    ((value number).ways before t).findSome? (fun w => some (g w.groups)) =
      (value? t).map fun v => g [(number, v)] := by
  rw [value, findSome?_ways_group, findSome?_ways_seq, manyBlanks,
    ways_many]
  refine findSome?_stretches_value (fun taken rest => ?_) t
  have hsome : ∀ (l : List Way) (h : Way → α), l.findSome? (fun w => some (h w)) = l.head?.map h := by
    rintro (_ | ⟨w, l⟩) h <;> rfl
  rw [hsome, head?_ways_some, CharSet.contains_inLine]
  split <;> rfl

theorem findSome?_literal (s : Text) (number : Nat) (g : List (Nat × Text) → α) (t : Text) :
    ((seq (.text s) (.value number)).ways before t).findSome? (fun w => some (g w.groups)) =
      if s.isPrefixOf t then (value? (t.drop s.length)).map fun v => g [(number, v)] else none := by
  rw [findSome?_ways_seq, findSome?_ways_text]
  split
  · exact findSome?_value number g (t.drop s.length)
  · rfl

/-- A count takes all digits when there is no way on before a digit. -/
theorem findSome?_count {f : Way → Option α}
    (hf : ∀ taken c rest groups, c.isDigit = true → f ⟨taken, c :: rest, groups⟩ = none)
    (number : Nat) (t : Text) :
    ((count number).ways before t).findSome? f =
      (digits? t).bind fun (digits, rest) => f ⟨digits, rest, [(number, digits)]⟩ := by
  rw [count, findSome?_ways_group, findSome?_ways_seq]
  cases t with
  | nil => rfl
  | cons c rest =>
    rw [findSome?_ways_one, CharSet.contains_range_digit, digits?]
    split
    · rename_i hc
      have hdigit := (Bool.and_eq_true_iff.1 hc).1
      rw [findSome?_ways_many fun taken d more hd => ?_, CharSet.contains_digit,
        List.takeWhile_cons_of_pos hdigit, List.dropWhile_cons_of_pos hdigit]
      · rfl
      · exact hf _ d more _ (CharSet.contains_digit ▸ hd)
    · rfl

theorem findSome?_letter (unit : CountUnit) (g : List (Nat × Text) → α) (t : Text) :
    ((seq (.one unit.letterSet) (.seq (.text ['=']) (.value 3))).ways before t).findSome?
        (fun w => some (g w.groups)) =
      (unit.tail? t).bind fun tail => (value? tail).map fun v => g [(3, v)] := by
  rw [findSome?_ways_seq]
  cases t with
  | nil => rfl
  | cons letter t =>
    rw [findSome?_ways_one, CountUnit.contains_letterSet, CountUnit.tail?_cons]
    cases hl : unit.isLetter letter with
    | false => rfl
    | true =>
      refine (findSome?_literal ['='] 3 g t).trans ?_
      rw [Bool.true_and]
      split <;> rfl

theorem findSome?_counted (unit : CountUnit) (g : List (Nat × Text) → α) (t : Text) :
    ((Form.counted unit).operand.ways before t).findSome? (fun w => some (g w.groups)) =
      if [':'].isPrefixOf t then
        (digits? (t.drop 1)).bind fun (digits, rest) => (unit.tail? rest).bind fun tail =>
          (value? tail).map fun v => g [(2, digits), (3, v)]
      else none := by
  rw [Form.operand, findSome?_ways_seq, findSome?_ways_text]
  split
  · rw [findSome?_ways_seq, findSome?_count fun taken c rest groups hc => ?_]
    · congr 1
      funext ⟨digits, rest⟩
      exact findSome?_letter unit (fun groups => g ((2, digits) :: groups)) rest
    · -- No unit has a digit for its letter.
      have hl : unit.isLetter c = false := Bool.eq_false_iff.2 fun h => by
        rw [CountUnit.isDigit_eq_false h] at hc
        exact absurd hc (by decide)
      refine (findSome?_letter unit (fun more => g (groups ++ more)) (c :: rest)).trans ?_
      rw [CountUnit.tail?_cons, hl]
      rfl
  · rfl

/-- The operator and the value that a match takes are those of the text. -/
theorem findSome?_operand (form : Form) (k t : Text) :
    (form.operand.ways before t).findSome? (fun w => some (form.meaning ((1, k) :: w.groups))) =
      (form.operand? t).map fun (op, v) => op.kind k v := by
  rw [Form.operand?]
  cases form with
  | counted unit =>
    rw [findSome?_counted unit fun groups => (Form.counted unit).meaning ((1, k) :: groups),
      Form.operator?_counted]
    split
    · rcases digits? (t.drop 1) with _ | ⟨digits, rest⟩
      · rfl
      · simp only [Option.bind_some]
        rcases unit.tail? rest with _ | tail
        · rfl
        · simp only [Option.bind_some, Option.map_some, Option.map_map]
          rfl
    · rfl
  | raw =>
    rw [Form.operand, findSome?_literal [':', '='] 2 fun groups => Form.raw.meaning ((1, k) :: groups),
      Form.operator?_raw]
    split
    · rw [Option.map_map]
      rfl
    · rfl
  | simple =>
    rw [Form.operand, findSome?_literal ['='] 2 fun groups => Form.simple.meaning ((1, k) :: groups),
      Form.operator?_simple]
    split
    · rw [Option.map_map]
      rfl
    · rfl

theorem findSome?_operand_blank (form : Form) (k : Text) {c : Char} (hc : Text.isBlank c = true)
    (rest : Text) :
    (form.operand.ways before (c :: rest)).findSome?
      (fun w => some (form.meaning ((1, k) :: w.groups))) = none := by
  have hcolon : c ≠ ':' := Text.ne_of_isBlank hc (by decide)
  have hsign : c ≠ '=' := Text.ne_of_isBlank hc (by decide)
  rw [findSome?_operand]
  cases form <;> simp [Form.operand?, Form.operator?, hcolon, hsign]

/-- Of the stretches that a key can be the shortest one that has a way on is taken. -/
theorem findSome?_stretches_key {β : Type} {p : Text → Option β} {f : Way → Option α}
    {g : Text → β → α}
    (hf : ∀ taken rest, f ⟨taken, rest, []⟩ = (p (Text.dropBlanks rest)).map (g taken)) (t : Text) :
    (stretches .visible t).tail.findSome? f = (shortestKey? p t).map fun (k, b) => g k b := by
  induction t generalizing f g with
  | nil => rfl
  | cons c rest ih =>
    have hvisible := CharSet.contains_visible c
    rw [shortestKey?]
    cases hc : Text.isBlank c with
    | true =>
      rw [hc, Bool.not_true] at hvisible
      rw [stretches, hvisible]
      rfl
    | false =>
      rw [hc, Bool.not_false] at hvisible
      have hrest := ih (f := fun w => f (Way.join ⟨[c], rest, []⟩ w)) (g := fun k => g (c :: k))
        fun taken more => hf (c :: taken) more
      rw [findSome?_tail_stretches hvisible, hf, hrest]
      cases p (Text.dropBlanks rest) with
      | some b => rfl
      | none =>
        simp only [Bool.false_eq_true, if_false, Option.map_none, Option.none_or, Option.map_map]
        rfl

/-- The key that a match takes is the shortest one. -/
theorem findSome?_keyed (form : Form) (t : Text) :
    ((seq (.key 1) (.seq .manyBlanks form.operand)).ways before t).findSome?
        (fun w => some (form.meaning w.groups)) =
      (shortestKey? form.operand? t).map fun (k, op, v) => op.kind k v := by
  rw [findSome?_ways_seq, key, findSome?_ways_group, ways_some,
    if_neg Bool.false_ne_true]
  refine findSome?_stretches_key (g := fun k (op, v) => Operator.kind op k v) (fun taken rest => ?_) t
  rw [findSome?_ways_seq, manyBlanks, findSome?_ways_many]
  · -- The blanks behind the key are taken whole, since no operand begins with one.
    exact findSome?_operand form taken (Text.dropBlanks rest)
  · exact fun blanks c more hc => findSome?_operand_blank form taken hc more

end Pattern

/-! ### Lines -/

theorem search_pattern (form : Form) (line : Text) :
    (form.pattern.search line).map (fun w => form.meaning w.groups) =
      LineKind.assignment? (Text.dropBlanks line) form := by
  rw [Form.pattern, Pattern.map_search_textStart, Pattern.findSome?_ways_seq, Pattern.manyBlanks,
    Pattern.findSome?_ways_many]
  · exact Pattern.findSome?_keyed form (Text.dropBlanks line)
  · intro blanks c rest hc
    -- No key begins with a blank.
    have hkey : shortestKey? form.operand? (c :: rest) = none := if_pos hc
    refine (Pattern.findSome?_keyed form (c :: rest)).trans ?_
    rw [hkey]
    rfl

theorem isSome_search_commentPattern (line : Text) :
    (commentPattern.search line).isSome = true ↔ (Text.dropBlanks line).head? = some '#' := by
  have hmark : (commentPattern.search line).map (fun _ => ()) =
      if ['#'].isPrefixOf (Text.dropBlanks line) then some () else none := by
    rw [commentPattern, Pattern.map_search_textStart _ fun _ => (), Pattern.findSome?_ways_seq,
      Pattern.manyBlanks, Pattern.findSome?_ways_many]
    · exact Pattern.findSome?_ways_text ['#'] _
    · intro blanks c rest hc
      have hne : c ≠ '#' := Text.ne_of_isBlank hc (by decide)
      rw [Pattern.findSome?_ways_text]
      simp [Ne.symm hne]
  rw [← Option.isSome_map, hmark]
  cases Text.dropBlanks line with
  | nil => simp
  | cons c rest =>
    by_cases hc : c = '#'
    · simp [hc]
    · simp [hc, Ne.symm hc]

/-- The meaning of a line is the one that the first pattern gives it that matches. -/
theorem LineKind.ofLine_eq_matched (line : Text) : ofLine line = matched line := by
  have hassign : (fun form : Form => (form.pattern.search line).map fun w => form.meaning w.groups) =
      assignment? (Text.dropBlanks line) := funext fun form => search_pattern form line
  have hblank : Text.trim line = [] ↔ Text.dropBlanks line = [] :=
    Text.trim_eq_nil_iff.trans Text.dropBlanks_eq_nil.symm
  rw [matched, hassign]
  refine (ite_congr (propext (isSome_search_commentPattern line)) (fun _ => rfl) fun _ => ?_).symm
  cases Form.byPriority.findSome? (assignment? (Text.dropBlanks line)) with
  | some kind => rfl
  | none => exact ite_congr (propext hblank) (fun _ => rfl) fun _ => rfl

end CountedConfig
