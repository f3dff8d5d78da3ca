/-!
# Sets of code points

A set is stored as the increasing list of the code points at which membership changes: the first
entry is the least member, the second the least larger code point that is no member, and so on.
-/

namespace Stencil.Text

structure CodePointSet where
  changes : List Nat

namespace CodePointSet

/-- Membership of `n`, when the changes so far left it at `inside`. -/
def holdsAfter (n : Nat) (inside : Bool) : List Nat → Bool
  | [] => inside
  | c :: cs => if n < c then inside else holdsAfter n (!inside) cs

def contains (s : CodePointSet) (c : Char) : Bool :=
  holdsAfter c.toNat false s.changes

end CodePointSet

end Stencil.Text
