import Stencil.Number

/-!
# Rounding to the nearest number

Every fraction has a nearest number; of two that are equally near, the one with the even significand
is taken. Magnitudes too large for a finite number round to infinity.
-/

namespace Stencil.Number

/-- The quotient rounded to the nearest integer, a half to the even one. -/
def divNearest (num den : Nat) : Nat :=
  let q := num / den
  let r := num % den
  if 2 * r < den ∨ (2 * r = den ∧ q % 2 = 0) then q else q + 1

/-- The numerator and the denominator of `num / (den * 2 ^ e)`. -/
def scaled (num den : Nat) (e : Int) : Nat × Nat :=
  (num * Nat.pow 2 (-e).toNat, den * Nat.pow 2 e.toNat)

/-- The exponent at which the significand of `num / den` has its full width, or the least one. -/
def roundingExponent (num den : Nat) : Int :=
  let e : Int := (num.log2 : Int) - den.log2 - 53
  let (n, d) := scaled num den e
  max (-1074) (if n < Nat.pow 2 53 * d then e else e + 1)

/-- A significand that rounds up to `2 ^ 53` carries into the exponent, as it should. -/
def nearestCode (num den : Nat) : Nat :=
  let e := roundingExponent num den
  let (n, d) := scaled num den e
  min infinityCode ((e + 1074).toNat * Nat.pow 2 52 + divNearest n d)

/-- The number nearest to `num / den`. -/
def ofRatio (negative : Bool) (num den : Nat) : Number :=
  ofCode negative (if num = 0 then 0 else nearestCode num den)

def ofInt (i : Int) : Number :=
  ofRatio (i < 0) i.natAbs 1

end Stencil.Number
