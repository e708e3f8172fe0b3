/-
The shortest decimal text of a float of 64 bits.

A decimal number stands for the float nearest to it, and every number that rounds to
the same float stands for it as well.  The float is written with the fewest digits
with which it is read back, and of those with the ones nearest to it.  All of this is
done in whole numbers.
-/
import CountedConfig.Text

namespace CountedConfig
namespace Decimal

/-- The quotient of two numbers rounded to the nearest whole number, and to an even one
halfway. -/
def roundDiv (num den : Nat) : Nat :=
  let quotient := num / den
  let twice := 2 * (num % den)
  if twice < den || (twice == den && quotient % 2 == 0) then quotient else quotient + 1

def scale (base : Nat) (num den : Nat) (power : Int) : Nat × Nat :=
  (num * Nat.pow base power.toNat, den * Nat.pow base (-power).toNat)

/-- The float nearest to a fraction that is not zero, as a whole number below 2⁵³ and a
power of two, which is -1074 at least. -/
def nearest (num den : Nat) : Nat × Int :=
  let guess : Int := (num.log2 : Int) - (den.log2 : Int) - 52
  let fits := fun power : Int =>
    let (n, d) := scale 2 num den (-power)
    d * Nat.pow 2 52 ≤ n
  let power := max (-1074) (if fits guess then guess else guess - 1)
  let (n, d) := scale 2 num den (-power)
  (roundDiv n d, power)

/-- Whether a fraction rounds to the float `mantissa · 2^power`.  Below a power of two the
next float is half as far away as above it. -/
def roundsTo (mantissa : Nat) (power : Int) (num den : Nat) : Bool :=
  let (n, d) := scale 2 (4 * num) den (-power)
  let below := if mantissa = Nat.pow 2 52 ∧ -1074 < power then 1 else 2
  let low := (4 * mantissa - below) * d
  let high := (4 * mantissa + 2) * d
  if mantissa % 2 = 0 then low ≤ n && n ≤ high else low < n && n < high

/-- The digits of a float, as a number and a power of ten, from the coarsest grid of
decimal numbers on which there is a number that rounds to the float. -/
def onGrid (mantissa : Nat) (float : Int) : (bound : Nat) → (power : Int) → Nat × Int
  | 0, power => (0, power)
  | bound + 1, power =>
    let (num, den) := scale 2 mantissa 1 float
    let (n, d) := scale 10 num den (-power)
    let low := n / d
    let isHit := fun digits : Nat =>
      let (num, den) := scale 10 digits 1 power
      0 < digits && roundsTo mantissa float num den
    if isHit (low + 1) && (!isHit low || d ≤ 2 * (n % d)) then (low + 1, power)
    else if isHit low then (low, power)
    else onGrid mantissa float bound (power - 1)

/-- Digits and a power of ten without an exponent, with one digit behind the point at
least. -/
def positional (digits : Nat) (power : Int) : Text :=
  let t := Text.ofNat digits ++ List.replicate power.toNat '0'
  let places := (-power).toNat
  if places = 0 then t ++ ".0".toList
  else
    let t := List.replicate (places + 1 - t.length) '0' ++ t
    t.take (t.length - places) ++ '.' :: t.drop (t.length - places)

/-- The shortest text of the float nearest to `digits · 10^power`. -/
def shortest (digits : Nat) (power : Int) : Text :=
  if digits = 0 then "0.0".toList
  else
    let (num, den) := scale 10 digits 1 power
    let (mantissa, float) := nearest num den
    if mantissa = 0 then "0.0".toList
    else
      -- A number that rounds to the float has as many places as it, or one more.
      let places : Int := (Text.ofNat digits).length + power
      let (digits, power) := onGrid mantissa float 1200 (places + 1)
      positional digits power

end Decimal
end CountedConfig
