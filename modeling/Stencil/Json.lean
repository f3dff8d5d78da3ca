import Stencil.Number

/-!
# JSON documents

A document as it was written: objects keep the order of their entries and repeated keys. An integer
stays an integer as long as it fits into sixty-four bits; every other number is a `Number`.
-/

namespace Stencil

inductive Json
  | null
  | bool (b : Bool)
  | integer (i : Int)
  | float (x : Number)
  | string (s : String)
  | array (items : List Json)
  | object (entries : List (String × Json))
deriving Inhabited

/-- Why a text could not be read. -/
inductive ReadError
  /-- The text ends before the document does. -/
  | truncated
  /-- The text is not JSON, goes on after the document, or nests its containers too deep. -/
  | malformed
  /-- The document has another shape than the one asked for. -/
  | mismatched
deriving DecidableEq, Inhabited

namespace Json

mutual

/-- The number of containers on the longest way into the document. -/
def nesting : Json → Nat
  | array items => nestingItems items + 1
  | object entries => nestingEntries entries + 1
  | _ => 0

def nestingItems : List Json → Nat
  | [] => 0
  | j :: js => max (nesting j) (nestingItems js)

def nestingEntries : List (String × Json) → Nat
  | [] => 0
  | (_, j) :: es => max (nesting j) (nestingEntries es)

end

end Json

end Stencil
