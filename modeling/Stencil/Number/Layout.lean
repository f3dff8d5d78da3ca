import Stencil.Number
import Stencil.Number.Shortest

/-!
# Number texts

A number is written with the fewest digits that read back as it. A layout says which decimal
exponents are written positionally and how the rest looks.
-/

namespace Stencil.Number

structure Layout where
  /-- The decimal exponents from `least` to `greatest` are written positionally. -/
  least : Int
  greatest : Int
  /-- Whole numbers in positional form end in a point and a zero. -/
  wholePoint : Bool
  /-- Positive exponents carry a plus sign. -/
  plusSign : Bool
  /-- The negative zero keeps its sign. -/
  zeroSign : Bool
  infinityName : String

namespace Layout

def digitChars (n : Nat) : List Char :=
  Nat.toDigits 10 n

/-- The decimal exponent of the first digit. -/
def leadingExponent (d : Decimal) : Int :=
  d.exponent + (digitChars d.digits).length - 1

def positional (l : Layout) (d : Decimal) : List Char :=
  let digits := digitChars d.digits
  if 0 ≤ d.exponent then
    digits ++ List.replicate d.exponent.toNat '0' ++ (if l.wholePoint then ['.', '0'] else [])
  else
    let places := (-d.exponent).toNat
    let padded := List.replicate (places + 1 - digits.length) '0' ++ digits
    let whole := padded.length - places
    padded.take whole ++ '.' :: padded.drop whole

def exponential (l : Layout) (d : Decimal) : List Char :=
  let p := leadingExponent d
  let sign := if p < 0 then ['-'] else if l.plusSign then ['+'] else []
  let mantissa :=
    match digitChars d.digits with
    | first :: second :: rest => first :: '.' :: second :: rest
    | digits => digits
  mantissa ++ 'e' :: sign ++ digitChars p.natAbs

def magnitudeText (l : Layout) (m : Nat) (e : Int) : List Char :=
  if m = 0 then l.positional ⟨0, 0⟩
  else
    let d := shortest m e
    if l.least ≤ leadingExponent d ∧ leadingExponent d ≤ l.greatest then l.positional d
    else l.exponential d

end Layout

def text (x : Number) (l : Layout) : String :=
  let sign := if x.isNegative then ['-'] else []
  match x.magnitude with
  | .notANumber => "NaN"
  | .infinite => String.ofList sign ++ l.infinityName
  | .finite m e =>
    String.ofList ((if m = 0 ∧ !l.zeroSign then [] else sign) ++ l.magnitudeText m e)

end Stencil.Number
