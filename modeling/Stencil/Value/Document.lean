import Stencil.Json
import Stencil.Number.Rounding
import Stencil.Value

/-!
# Values and JSON

A document becomes a value by giving up the difference between integers and other numbers; of
repeated keys the last counts. A value becomes a document by writing whole numbers below `2 ^ 63`
as integers, and null for what JSON does not have: absent values, infinities and NaN.
-/

namespace Stencil

mutual

/-- The document with its objects as maps: sorted, and each key once. -/
def Json.canonical : Json → Json
  | .array items => .array (Json.canonicalItems items)
  | .object entries => .object (Entries.ofList (Json.canonicalEntries entries))
  | j => j

def Json.canonicalItems : List Json → List Json
  | [] => []
  | j :: js => j.canonical :: Json.canonicalItems js

def Json.canonicalEntries : List (String × Json) → List (String × Json)
  | [] => []
  | (key, j) :: es => (key, j.canonical) :: Json.canonicalEntries es

end

namespace Value

mutual

/-- The value of a canonical document. -/
def ofJson : Json → Value
  | .null => null
  | .bool b => bool b
  | .integer i => number (.ofInt i)
  | .float x => number x
  | .string s => string s
  | .array items => array (ofItems items)
  | .object entries => object (ofJsonEntries entries)

def ofItems : List Json → List Value
  | [] => []
  | j :: js => ofJson j :: ofItems js

def ofJsonEntries : List (String × Json) → List (String × Value)
  | [] => []
  | (key, j) :: es => (key, ofJson j) :: ofJsonEntries es

end

def numberToJson (x : Number) : Json :=
  match x.toInt?, x.magnitude with
  | some i, _ => if i.natAbs < Nat.pow 2 63 then .integer i else .float x
  | none, .finite _ _ => .float x
  | none, _ => .null

mutual

def toJson : Value → Json
  | undefined => .null
  | null => .null
  | bool b => .bool b
  | number x => numberToJson x
  | string s => .string s
  | array items => .array (itemsToJson items)
  | object entries => .object (entriesToJson entries)

def itemsToJson : List Value → List Json
  | [] => []
  | v :: vs => toJson v :: itemsToJson vs

def entriesToJson : List (String × Value) → List (String × Json)
  | [] => []
  | (key, v) :: es => (key, toJson v) :: entriesToJson es

end

end Value

end Stencil
