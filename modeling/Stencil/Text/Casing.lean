import Stencil.Text.Casing.Context
import Stencil.Text.Casing.Tables

/-!
# Upper and lower case

Full case mappings: one code point may become several, as a sharp s does in upper case. A capital
sigma is written in its final form when it ends a word, that is when a cased letter comes before it
and none after it, ignorable code points on either side left aside.
-/

namespace Stencil.Text

/-- The image of one code point under a table of runs and a table of expansions. -/
def mapCase (runs : List Casing.Run) (expansions : List (Nat × List Nat)) (c : Char) : List Char :=
  match expansions.lookup c.toNat with
  | some codes => codes.map Char.ofNat
  | none =>
    match runs.findSome? (·.image? c.toNat) with
    | some code => [Char.ofNat code]
    | none => [c]

def upperChar (c : Char) : List Char :=
  mapCase upperRuns upperExpansions c

def lowerChar (c : Char) : List Char :=
  mapCase lowerRuns lowerExpansions c

def upper (cs : List Char) : List Char :=
  cs.flatMap upperChar

/-- The first code point that is not ignorable is cased. -/
def meetsCased (cs : List Char) : Bool :=
  match cs.dropWhile isCaseIgnorable with
  | [] => false
  | c :: _ => isCased c

/-- Lower case of `cs` within a text whose earlier part is `before`, nearest first. -/
def lowerFrom (before : List Char) : List Char → List Char
  | [] => []
  | c :: after =>
    (if c = 'Σ' then [if meetsCased before && !meetsCased after then 'ς' else 'σ'] else lowerChar c)
      ++ lowerFrom (c :: before) after

def lower (cs : List Char) : List Char :=
  lowerFrom [] cs

/-- The first code point in upper case and the others as they are. -/
def capitalize : List Char → List Char
  | [] => []
  | c :: cs => upperChar c ++ cs

end Stencil.Text
