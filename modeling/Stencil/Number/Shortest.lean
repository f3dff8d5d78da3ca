/-!
# Shortest decimals

The shortest decimal of a magnitude `m * 2 ^ e` is the multiple of the largest power of ten that
still rounds to it. On each grid of powers of ten only the two neighbours of the magnitude have to
be tried, from coarse grids to fine ones.
-/

namespace Stencil.Number

/-- The decimal `digits * 10 ^ exponent`. -/
structure Decimal where
  digits : Nat
  exponent : Int
deriving DecidableEq

/-- Quarter units of the last place of a magnitude, and the bounds of what rounds to it. -/
structure RoundingRange where
  low : Nat
  middle : Nat
  high : Nat
  /-- The bounds themselves round to the magnitude. -/
  closed : Bool

/-- Below a power of two the next smaller number is at half the distance, unless it is the least
exponent already. -/
def roundingRange (m : Nat) (e : Int) : RoundingRange where
  low := if m = Nat.pow 2 52 ∧ -1074 < e then 4 * m - 1 else 4 * m - 2
  middle := 4 * m
  high := 4 * m + 2
  closed := m % 2 = 0

/-- The factors that bring quarter units and multiples of `10 ^ grid` to a common unit. -/
def commonUnits (e grid : Int) : Nat × Nat :=
  (Nat.pow 2 (e - 2).toNat * Nat.pow 10 (-grid).toNat,
    Nat.pow 2 (2 - e).toNat * Nat.pow 10 grid.toNat)

def RoundingRange.contains (r : RoundingRange) (quarter x : Nat) : Bool :=
  if r.closed then r.low * quarter ≤ x ∧ x ≤ r.high * quarter
  else r.low * quarter < x ∧ x < r.high * quarter

/-- The neighbour on the grid that rounds to the magnitude; of two, the nearer; of two equally near,
the larger. -/
def nearestOnGrid (r : RoundingRange) (e grid : Int) : Option Nat :=
  let (quarter, unit) := commonUnits e grid
  let below := r.middle * quarter / unit
  let distance := r.middle * quarter - below * unit
  match r.contains quarter (below * unit), r.contains quarter ((below + 1) * unit) with
  | true, true => some (if 2 * distance < unit then below else below + 1)
  | true, false => some below
  | false, true => some (below + 1)
  | false, false => none

def firstOnGrids (r : RoundingRange) (e : Int) : Nat → Int → Decimal
  | 0, grid => ⟨(nearestOnGrid r e grid).getD 0, grid⟩
  | tries + 1, grid =>
    match nearestOnGrid r e grid with
    | some digits => ⟨digits, grid⟩
    | none => firstOnGrids r e tries (grid - 1)

/-- The first grid lies above the magnitude, and seventeen digits always suffice. -/
def shortest (m : Nat) (e : Int) : Decimal :=
  firstOnGrids (roundingRange m e) e 20 (((m.log2 : Int) + 1 + e) * 30103 / 100000 + 2)

end Stencil.Number
