/-
Runs of characters as runs of bytes.

The encodings of the characters of a run are not all the byte strings between the
first and the last of them.  Cut in the right places, each piece of a run is: its
characters have the byte strings that take each byte from a run of its own.
-/
import CountedConfig.Text.Runs
import CountedConfig.Text.Utf8

namespace CountedConfig
namespace Text

/-- For each byte of an encoding the least and the greatest value. -/
abbrev ByteRuns := List (UInt8 × UInt8)

namespace ByteRuns

/-- The last code point in front of a cut of a run, if there is one with part of the
run on either side. -/
def cutBetween? (first last : Nat) (cut : Nat) : Option Nat :=
  if first ≤ cut ∧ cut < last then some cut else none

/-- Where a run is cut whose characters differ in a byte with `below` code points to
each of its values.  All the bytes behind it have to take all their values. -/
def levelCut? (first last : Nat) (below : Nat) : Option Nat :=
  if first / below = last / below then none
  else if first % below ≠ 0 then cutBetween? first last (first / below * below + below - 1)
  else if last % below ≠ below - 1 then cutBetween? first last (last / below * below - 1)
  else none

/-- Where a run is cut first: at the gap in which no characters are, then where
encodings become longer, and then from the last byte to the first.  Of ASCII all is
one byte. -/
def cut? (first last : Nat) : Option Nat :=
  ([0xd7ff, 0xdfff, 0x7f, 0x7ff, 0xffff].findSome? (cutBetween? first last)).or <|
    if last ≤ 0x7f then none
    else [0x40, 0x1000, 0x40000].findSome? (levelCut? first last)

theorem cutBetween?_bounds {first last cut n : Nat} (h : cutBetween? first last cut = some n) :
    first ≤ n ∧ n < last := by
  unfold cutBetween? at h
  split at h
  · rename_i hc
    exact Option.some.inj h ▸ hc
  · nomatch h

theorem levelCut?_bounds {first last below n : Nat} (h : levelCut? first last below = some n) :
    first ≤ n ∧ n < last := by
  unfold levelCut? at h
  split at h
  · nomatch h
  · split at h
    · exact cutBetween?_bounds h
    · split at h
      · exact cutBetween?_bounds h
      · nomatch h

/-- Both sides of a cut hold a part of the run. -/
theorem cut?_bounds {first last n : Nat} (h : cut? first last = some n) :
    first ≤ n ∧ n < last := by
  rcases Option.or_eq_some_iff.1 h with h | ⟨-, h⟩
  · obtain ⟨_, -, h⟩ := List.exists_of_findSome?_eq_some h
    exact cutBetween?_bounds h
  · split at h
    · nomatch h
    · obtain ⟨_, -, h⟩ := List.exists_of_findSome?_eq_some h
      exact levelCut?_bounds h

/-- The pieces of a run, in ascending order. -/
def pieces (first last : Nat) : List (Nat × Nat) :=
  match _h : cut? first last with
  | none => [(first, last)]
  | some n => pieces first n ++ pieces (n + 1) last
termination_by last - first
decreasing_by
  all_goals
    have := cut?_bounds _h
    omega

/-- The runs of bytes that the characters from one code point to another take. -/
def ofRun (first last : Nat) : List ByteRuns :=
  (pieces first last).filterMap fun (first, last) =>
    if 0xd800 ≤ first ∧ last ≤ 0xdfff then none
    else some ((encode [Char.ofNat first]).zip (encode [Char.ofNat last]))

/-- The runs of bytes that the characters of a set take. -/
def ofRuns (runs : Runs) : List ByteRuns := runs.flatMap fun (first, last) => ofRun first last

end ByteRuns
end Text
end CountedConfig
