/-
The digits that a count is written with.

A line that counts has a run of decimal digits in its operator, of any length and with no zero in
front.  What they denote is the count of the line, or the largest number of 64 bits when these do
not hold it (`LineKind.ofLine_eq_counted_iff`).
-/
import CountedConfig.Proofs.Line.Classification

namespace CountedConfig

open Text (Blank)

/-- The line counts, and its count is written with these digits. -/
inductive LineKind.CountsWith (line : Text) (unit : CountUnit) (key digits fragment : Text) : Prop
  | intro {before behind tail : Text} {letter : Char} (hc : ¬ Commented line)
    (hbefore : Blank before) (hbehind : Blank behind) (hne : digits ≠ [])
    (hdigits : ∀ c ∈ digits, c.isDigit = true) (hzero : digits.head? ≠ some '0')
    (hletter : letter ∈ unit.letters)
    (hline : line = before ++ (key ++ (behind ++ (':' :: (digits ++ [letter, '=']) ++ tail))))
    (hd : Decides (.counted unit) line key
      (.counted unit (min (UInt64.size - 1) (Text.toNat digits))) tail)
    (hv : Captured tail fragment)

namespace LineKind

variable {line key fragment : Text} {unit : CountUnit} {count : Nat}

theorem ofLine_eq_counted_iff :
    ofLine line = .counted unit key count fragment ↔
      ∃ digits, CountsWith line unit key digits fragment ∧
        count = min (UInt64.size - 1) (Text.toNat digits) := by
  rw [ofLine_eq_iff]
  constructor
  · intro h
    cases h with
    | assignment hc hd hv hk =>
      cases hk
      obtain ⟨before, behind, written, hbefore, hbehind, hw, hline⟩ := hd.factors.split
      cases hw with
      | counted hne hdigits hzero hletter =>
        exact ⟨_, ⟨hc, hbefore, hbehind, hne, hdigits, hzero, hletter, hline, hd, hv⟩, rfl⟩
  · rintro ⟨digits, ⟨hc, -, -, -, -, -, -, -, hd, hv⟩, rfl⟩
    exact .assignment hc hd hv (.counted unit _ key fragment)

/-- A count is a number of 64 bits. -/
theorem count_lt_size (h : ofLine line = .counted unit key count fragment) : count < UInt64.size := by
  obtain ⟨digits, -, rfl⟩ := ofLine_eq_counted_iff.1 h
  exact Nat.lt_of_le_of_lt (Nat.min_le_left _ _) (by decide)

end LineKind
end CountedConfig
