import Stencil.Text.Quoted

/-!
# Tokens

A source is text with markers in it. Texts and comments stand outside of markers; a marker goes from
its opener to its closer and holds identifiers, literals, punctuation and blanks.
-/

namespace Stencil

/-- The ways to open a marker. -/
inductive Marker
  | interpolation
  | blockOpen
  | invertedOpen
  | blockClose
deriving DecidableEq, Inhabited

namespace Marker

def all : List Marker :=
  [interpolation, blockOpen, invertedOpen, blockClose]

def chars : Marker → List Char
  | interpolation => ['{', '{']
  | blockOpen => ['{', '{', '#']
  | invertedOpen => ['{', '{', '^']
  | blockClose => ['{', '{', '/']

def text (m : Marker) : String :=
  String.ofList m.chars

def ofText? (s : String) : Option Marker :=
  all.find? (·.text = s)

end Marker

inductive Token
  | text (content : String)
  | comment (content : String)
  | opener (marker : Marker)
  | closer
  | identifier (name : String)
  | literal (value : String)
  | dot
  | leftParen
  | rightParen
  | whitespace (blanks : String)
deriving DecidableEq, Inhabited

namespace Token

/-- How messages speak of a token. -/
def describe : Token → String
  | text content => "text " ++ Text.quoted content
  | comment _ => "comment"
  | opener marker => "`" ++ marker.text ++ "`"
  | closer => "`\x7d\x7d`"
  | identifier name => "identifier `" ++ name ++ "`"
  | literal value => "literal " ++ Text.quoted value
  | dot => "`.`"
  | leftParen => "`(`"
  | rightParen => "`)`"
  | whitespace _ => "whitespace"

instance : ToString Token := ⟨describe⟩

end Token

end Stencil
