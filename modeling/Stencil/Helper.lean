import Stencil.Entries
import Stencil.Value

/-!
# Helpers

A helper makes a value of its arguments, or fails. It may keep and change a state, of type `σ`,
that all helpers of a rendering share.
-/

namespace Stencil

inductive HelperError
  | message (text : String)
  | invalidArgument (helper reason : String)
  | other (text : String)
deriving DecidableEq

def HelperError.text : HelperError → String
  | message text => text
  | invalidArgument helper reason => "invalid argument for `" ++ helper ++ "`: " ++ reason
  | other text => text

abbrev Helper (σ : Type) := List Value → σ → Except HelperError Value × σ

/-- A helper that does without the state. -/
def Helper.ofFunction {σ : Type} (f : List Value → Except HelperError Value) : Helper σ :=
  fun arguments state => (f arguments, state)

/-- The helpers by their names. -/
structure Registry (σ : Type) where
  entries : List (String × Helper σ)
  sorted : Entries.Sorted entries

namespace Registry

variable {σ : Type}

def empty : Registry σ :=
  ⟨[], .nil⟩

instance : Inhabited (Registry σ) := ⟨empty⟩

/-- Adds a helper, in place of one that has its name. -/
def register (r : Registry σ) (name : String) (helper : Helper σ) : Registry σ :=
  ⟨Entries.insert name helper r.entries, Entries.sorted_insert name helper r.sorted⟩

def remove (r : Registry σ) (name : String) : Registry σ :=
  ⟨Entries.erase name r.entries, Entries.sorted_erase name r.sorted⟩

def get? (r : Registry σ) (name : String) : Option (Helper σ) :=
  r.entries.lookup name

def contains (r : Registry σ) (name : String) : Bool :=
  (r.get? name).isSome

/-- The names in their order. -/
def names (r : Registry σ) : List String :=
  r.entries.map (·.1)

end Registry

end Stencil
