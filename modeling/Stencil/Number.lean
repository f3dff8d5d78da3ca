/-!
# Numbers

A number is a binary64 floating-point number and is held by its sixty-four bits, so that it is known
exactly: a sign, and as magnitude either a natural number times a power of two, or infinity, or no
number at all.
-/

namespace Stencil

structure Number where
  bits : UInt64
deriving DecidableEq, Inhabited

namespace Number

inductive Magnitude
  | notANumber
  | infinite
  /-- The magnitude `significand * 2 ^ exponent`. -/
  | finite (significand : Nat) (exponent : Int)
deriving DecidableEq

def isNegative (x : Number) : Bool :=
  Nat.pow 2 63 ≤ x.bits.toNat

def magnitude (x : Number) : Magnitude :=
  let field : Nat := x.bits.toNat / Nat.pow 2 52 % Nat.pow 2 11
  let fraction : Nat := x.bits.toNat % Nat.pow 2 52
  if field = 2047 then
    if fraction = 0 then .infinite else .notANumber
  else if field = 0 then .finite fraction (-1074)
  else .finite (Nat.pow 2 52 + fraction) ((field : Int) - 1075)

def isNaN (x : Number) : Bool :=
  x.magnitude matches .notANumber

/-- Zero of either sign. -/
def isZero (x : Number) : Bool :=
  x.magnitude matches .finite 0 _

/-- Equality as numbers: the two zeros are equal, and nothing equals what is no number. -/
def equals (x y : Number) : Bool :=
  !x.isNaN && !y.isNaN && (x.bits == y.bits || x.isZero && y.isZero)

/-- The integer that `x` is, if it is one. -/
def toInt? (x : Number) : Option Int :=
  match x.magnitude with
  | .finite m e =>
    let sign : Int := if x.isNegative then -1 else 1
    if 0 ≤ e then some (sign * (m * Nat.pow 2 e.toNat : Nat))
    else if m % Nat.pow 2 (-e).toNat = 0 then some (sign * (m / Nat.pow 2 (-e).toNat : Nat))
    else none
  | _ => none

/-! ## The number with a given sign and code -/

/-- The codes of the magnitudes are in order: zero first, then the finite ones by size, then
infinity. -/
def ofCode (negative : Bool) (code : Nat) : Number :=
  ⟨UInt64.ofNat ((if negative then Nat.pow 2 63 else 0) + code)⟩

def infinityCode : Nat :=
  2047 * Nat.pow 2 52

def infinity (negative : Bool) : Number :=
  ofCode negative infinityCode

def nan : Number :=
  ofCode false (infinityCode + Nat.pow 2 51)

end Number

end Stencil
