import Stencil.Entries
import Stencil.Number.Layout

/-!
# Values

What templates are rendered from and helpers work on. A value may be absent altogether, which is
something other than null. The entries of an object are in the order of their keys.
-/

namespace Stencil

inductive Value
  | undefined
  | null
  | bool (b : Bool)
  | number (x : Number)
  | string (s : String)
  | array (items : List Value)
  | object (entries : List (String × Value))
deriving Inhabited

namespace Value

/-- The object with these entries, of which the last of each key counts. -/
def ofEntries (entries : List (String × Value)) : Value :=
  .object (Entries.ofList entries)

def get? (v : Value) (key : String) : Option Value :=
  match v with
  | object entries => entries.lookup key
  | _ => none

def isObject : Value → Bool
  | object _ => true
  | _ => false

def string? : Value → Option String
  | string s => some s
  | _ => none

/-- Absent values, null, false, zero, NaN and what is empty are not truthy; objects always are. -/
def isTruthy : Value → Bool
  | undefined => false
  | null => false
  | bool b => b
  | number x => !x.isZero && !x.isNaN
  | string s => !s.isEmpty
  | array items => !items.isEmpty
  | object _ => true

/-- In output, numbers are positional from `1e-6` on up to below `1e21`, and no zero has a sign. -/
def outputLayout : Number.Layout where
  least := -6
  greatest := 20
  wholePoint := false
  plusSign := true
  zeroSign := false
  infinityName := "Infinity"

/-- What an interpolation writes. Arrays and objects write nothing. -/
def output : Value → String
  | bool b => if b then "true" else "false"
  | number x => x.text outputLayout
  | string s => s
  | _ => ""

mutual

/-- Equality part by part, in which numbers are compared as numbers. -/
def equals : Value → Value → Bool
  | undefined, undefined => true
  | null, null => true
  | bool a, bool b => a == b
  | number x, number y => x.equals y
  | string s, string t => s == t
  | array as, array bs => itemsEqual as bs
  | object as, object bs => entriesEqual as bs
  | _, _ => false

def itemsEqual : List Value → List Value → Bool
  | [], [] => true
  | a :: as, b :: bs => equals a b && itemsEqual as bs
  | _, _ => false

def entriesEqual : List (String × Value) → List (String × Value) → Bool
  | [], [] => true
  | (k, a) :: as, (l, b) :: bs => k == l && equals a b && entriesEqual as bs
  | _, _ => false

end

end Value

end Stencil
