import Stencil.Value

/-!
# Paths

A path goes from object to object by the names of entries. It leads to nothing as soon as a name is
denied, is not there, or is asked of something other than an object.
-/

namespace Stencil

/-- The names that no path may use: those listed here and those that are always denied. -/
structure Denylist where
  listed : List String
deriving DecidableEq, Inhabited

namespace Denylist

def always : List String :=
  ["constructor", "__proto__", "prototype"]

def standard : Denylist :=
  ⟨always⟩

def denies (d : Denylist) (name : String) : Bool :=
  always.contains name || d.listed.contains name

/-- What the segments lead to from a value. -/
def resolve (d : Denylist) : Value → List String → Value
  | v, [] => v
  | v, s :: ss =>
    if d.denies s then .undefined
    else
      match v.get? s with
      | some w => d.resolve w ss
      | none => .undefined

end Denylist

end Stencil
