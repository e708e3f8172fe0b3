/-
Numbers written with digits in a base up to 16, and characters by their code point.
-/
import CountedConfig.Text

namespace CountedConfig
namespace Text

/-- The value of a digit in base 16. -/
def hexValue? (c : Char) : Option Nat :=
  if c.isDigit then some (c.toNat - '0'.toNat)
  else if 'a'.toNat ≤ c.toNat ∧ c.toNat ≤ 'f'.toNat then some (c.toNat - 'a'.toNat + 10)
  else if 'A'.toNat ≤ c.toNat ∧ c.toNat ≤ 'F'.toNat then some (c.toNat - 'A'.toNat + 10)
  else none

/-- The number that some digits denote in a base. -/
def inBase (base : Nat) (digits : Text) : Nat :=
  digits.foldl (fun n c => base * n + (hexValue? c).getD 0) 0

def char? (n : Nat) : Option Char := if n.isValidChar then some (Char.ofNat n) else none

end Text
end CountedConfig
