import Stencil.Text.Printable

/-!
# Quoted texts

A text between double quotes in which everything that could not be seen is spelled out: the quote
and the backslash behind a backslash, the common controls by a letter, and other characters that
are not printable or attach to their neighbour by the hexadecimal number of their code point.
-/

namespace Stencil.Text

def quotedChar (c : Char) : List Char :=
  if c = '"' ∨ c = '\\' then ['\\', c]
  else if c = '\n' then ['\\', 'n']
  else if c = '\r' then ['\\', 'r']
  else if c = '\t' then ['\\', 't']
  else if c = '\x00' then ['\\', '0']
  else if isPrintable c && !extendsGrapheme c then [c]
  else ['\\', 'u', '{'] ++ Nat.toDigits 16 c.toNat ++ ['}']

def quoted (s : String) : String :=
  String.ofList ('"' :: s.toList.flatMap quotedChar ++ ['"'])

end Stencil.Text
