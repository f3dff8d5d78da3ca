import Stencil.Json
import Stencil.Number.Decimal

/-!
# Numerals

What the numerals of documents stand for. An integer of sixty-four bits, signed or not, is kept as
such. Any other numeral is a decimal of its leading digits, as many as sixty-four bits hold.
-/

namespace Stencil.Json

/-- A number as written: its digits before and after the point, and its exponent. -/
structure Numeral where
  negative : Bool
  whole : List Char
  fraction : List Char
  exponent : Option Int

def digitValue (d : Char) : Nat :=
  d.toNat - '0'.toNat

def digitsValue (ds : List Char) : Nat :=
  ds.foldl (fun n d => n * 10 + digitValue d) 0

/-- Appends digits to a number as long as it fits into sixty-four bits, and gives how many digits
are left then. -/
def appendDigits (n : Nat) : List Char → Nat × Nat
  | [] => (n, 0)
  | d :: ds =>
    if n * 10 + digitValue d < Nat.pow 2 64 then appendDigits (n * 10 + digitValue d) ds
    else (n, ds.length + 1)

namespace Numeral

def isInteger (n : Numeral) : Bool :=
  n.fraction.isEmpty && n.exponent.isNone

/-- A digit that is left out before the point raises the exponent by one, and a digit that is kept
behind it lowers the exponent by one. -/
def number? (n : Numeral) : Option Number :=
  let (digits, leftOut) := appendDigits 0 n.whole
  let (digits, behind) := appendDigits digits n.fraction
  Number.ofDecimal? n.negative digits
    (n.exponent.getD 0 + leftOut - (n.fraction.length - behind : Nat))

/-- A negative zero is no integer. Numerals beyond all numbers stand for nothing. -/
def toJson? (n : Numeral) : Option Json :=
  let magnitude := digitsValue n.whole
  if n.isInteger && !n.negative && decide (magnitude < Nat.pow 2 64) then some (.integer magnitude)
  else if n.isInteger && n.negative && decide (0 < magnitude ∧ magnitude ≤ Nat.pow 2 63) then
    some (.integer (-magnitude))
  else n.number?.map .float

end Numeral

end Stencil.Json
