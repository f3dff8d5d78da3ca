import Stencil.Number.Rounding

/-!
# Decimals

The number for a decimal `digits * 10 ^ exponent` is made in steps: the digits, the power of ten and
their product or quotient are rounded to the nearest number, one after the other. With up to fifteen
digits and a small exponent only the last step rounds, and the result is the number nearest to
the decimal; with more digits it may be a neighbour of that.
-/

namespace Stencil.Number

/-- The magnitude of a finite number as numerator and denominator. -/
def ratio? (x : Number) : Option (Nat × Nat) :=
  match x.magnitude with
  | .finite m e => some (m * Nat.pow 2 e.toNat, Nat.pow 2 (-e).toNat)
  | _ => none

/-- The number nearest to `10 ^ k`. -/
def powerOfTen (k : Nat) : Number :=
  ofRatio false (Nat.pow 10 k) 1

/-- The greatest exponent of a power of ten that is a finite number. -/
def greatestPower : Nat :=
  308

/-- A finite `x` times the power of ten with exponent `k`, or divided by that with exponent `-k`. -/
def shiftDecimal (x : Number) (k : Int) : Number :=
  match x.ratio?, (powerOfTen k.natAbs).ratio? with
  | some (a, b), some (c, d) =>
    if 0 ≤ k then ofRatio x.isNegative (a * c) (b * d) else ofRatio x.isNegative (a * d) (b * c)
  | _, _ => x

/-- The number for `digits * 10 ^ exponent`, unless it is too large. Where no power of ten is small
enough, two are used; digits of sixty-four bits divided by both of the greatest powers give zero. -/
def ofDecimal? (negative : Bool) (digits : Nat) (exponent : Int) : Option Number :=
  let x := ofRatio negative digits 1
  if digits = 0 ∨ exponent < -2 * greatestPower then some (ofCode negative 0)
  else if greatestPower < exponent then none
  else if exponent < -greatestPower then
    some ((x.shiftDecimal (-greatestPower)).shiftDecimal (exponent + greatestPower))
  else
    let y := x.shiftDecimal exponent
    if y.magnitude = .infinite then none else some y

end Stencil.Number
