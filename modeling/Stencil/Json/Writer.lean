import Stencil.Json
import Stencil.Number.Layout

/-!
# Writing JSON

The compact text of a document: no blanks, entries in their order, and in strings an escape only
where one is needed.
-/

namespace Stencil.Json

/-- Numbers are positional from `1e-5` on up to below `1e16` and keep their point. -/
def floatLayout : Number.Layout where
  least := -5
  greatest := 15
  wholePoint := true
  plusSign := false
  zeroSign := true
  infinityName := "null"

def hexDigit (n : Nat) : Char :=
  Nat.digitChar n

def escapedChar (c : Char) : List Char :=
  if c = '"' ∨ c = '\\' then ['\\', c]
  else if c = '\x08' then ['\\', 'b']
  else if c = '\x0c' then ['\\', 'f']
  else if c = '\n' then ['\\', 'n']
  else if c = '\r' then ['\\', 'r']
  else if c = '\t' then ['\\', 't']
  else if c.toNat < 32 then ['\\', 'u', '0', '0', hexDigit (c.toNat / 16), hexDigit (c.toNat % 16)]
  else [c]

def stringText (s : String) : List Char :=
  '"' :: s.toList.flatMap escapedChar ++ ['"']

/-- Integers in decimal digits. -/
def integerText (i : Int) : List Char :=
  (if i < 0 then ['-'] else []) ++ Nat.toDigits 10 i.natAbs

def floatText (x : Number) : List Char :=
  match x.magnitude with
  | .finite _ _ => (x.text floatLayout).toList
  | _ => ['n', 'u', 'l', 'l']

mutual

def chars : Json → List Char
  | null => ['n', 'u', 'l', 'l']
  | bool true => ['t', 'r', 'u', 'e']
  | bool false => ['f', 'a', 'l', 's', 'e']
  | integer i => integerText i
  | float x => floatText x
  | string s => stringText s
  | array items => '[' :: itemsChars items ++ [']']
  | object entries => '{' :: entriesChars entries ++ ['}']

def itemsChars : List Json → List Char
  | [] => []
  | [j] => chars j
  | j :: k :: js => chars j ++ ',' :: itemsChars (k :: js)

def entriesChars : List (String × Json) → List Char
  | [] => []
  | [(key, j)] => stringText key ++ ':' :: chars j
  | (key, j) :: e :: es => stringText key ++ ':' :: chars j ++ ',' :: entriesChars (e :: es)

end

def text (j : Json) : String :=
  String.ofList j.chars

end Stencil.Json
