/-!
# Runs of shifted code points

Case tables are regular: long stretches of letters move by the same distance, either every code
point or every second one.
-/

namespace Stencil.Text.Casing

/-- The code points `first`, `first + step`, …, `last`, each of which moves by `shift`. -/
structure Run where
  first : Nat
  last : Nat
  step : Nat
  shift : Int

def Run.image? (r : Run) (n : Nat) : Option Nat :=
  if r.first ≤ n ∧ n ≤ r.last ∧ (n - r.first) % r.step = 0 then some (n + r.shift).toNat else none

end Stencil.Text.Casing
