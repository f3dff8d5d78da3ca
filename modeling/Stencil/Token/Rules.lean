import Stencil.Text.Blank
import Stencil.Text.Word
import Stencil.Token

/-!
# Lexical rules

A rule looks at the characters that are left. It takes a token off them, refuses them because they
start nothing of its kind, or finds a token that is begun but broken, which no other rule may then
try to read in its place.
-/

namespace Stencil.Token

/-- What makes a source unreadable at some place. -/
inductive Fault
  | unexpectedCharacter (c : Char)
  | unterminatedComment
  | unterminatedLiteral
  | invalidEscape
deriving DecidableEq

def Fault.message : Fault → String
  | unexpectedCharacter c => "unexpected character `" ++ String.singleton c ++ "` inside marker"
  | unterminatedComment => "unterminated comment"
  | unterminatedLiteral => "unterminated string literal"
  | invalidEscape => "invalid escape sequence"

inductive Match
  | taken (token : Token) (rest : List Char)
  | refused
  | broken (fault : Fault)
deriving DecidableEq

abbrev Rule := List Char → Match

/-- The first rule that does not refuse decides. -/
def firstOf : List Rule → Rule
  | [], _ => .refused
  | rule :: rules, cs =>
    match rule cs with
    | .refused => firstOf rules cs
    | decided => decided

/-! ## Outside of markers -/

/-- What stands before and behind the first occurrence of `mark`. -/
def cut? (mark : List Char) : List Char → Option (List Char × List Char)
  | [] => if mark = [] then some ([], []) else none
  | c :: cs =>
    if mark.isPrefixOf (c :: cs) then some ([], (c :: cs).drop mark.length)
    else (cut? mark cs).map fun (before, behind) => (c :: before, behind)

/-- What stands before the first opener, and the rest from the opener on. -/
def splitAtOpener : List Char → List Char × List Char
  | '{' :: '{' :: cs => ([], '{' :: '{' :: cs)
  | c :: cs => ((c :: (splitAtOpener cs).1), (splitAtOpener cs).2)
  | [] => ([], [])

def textRule : Rule := fun cs =>
  match splitAtOpener cs with
  | ([], _) => .refused
  | (content, rest) => .taken (.text (String.ofList content)) rest

def commentToken (content : List Char) : Token :=
  .comment (String.ofList (Text.trim content))

/-- A comment up to the closing braces. -/
def shortComment (cs : List Char) : Match :=
  match cut? ['}', '}'] cs with
  | some (content, rest) => .taken (commentToken content) rest
  | none => .broken .unterminatedComment

/-- A comment that opens with two dashes goes up to two dashes and closing braces, if they follow.
-/
def commentRule : Rule
  | '{' :: '{' :: '!' :: '-' :: '-' :: cs =>
    match cut? ['-', '-', '}', '}'] cs with
    | some (content, rest) => .taken (commentToken content) rest
    | none => shortComment ('-' :: '-' :: cs)
  | '{' :: '{' :: '!' :: cs => shortComment cs
  | _ => .refused

/-- The longest opener counts. -/
def openerRule : Rule
  | '{' :: '{' :: '#' :: cs => .taken (.opener .blockOpen) cs
  | '{' :: '{' :: '^' :: cs => .taken (.opener .invertedOpen) cs
  | '{' :: '{' :: '/' :: cs => .taken (.opener .blockClose) cs
  | '{' :: '{' :: cs => .taken (.opener .interpolation) cs
  | _ => .refused

/-! ## Inside a marker -/

def whitespaceRule : Rule := fun cs =>
  match cs.takeWhile Text.isBlank with
  | [] => .refused
  | blanks => .taken (.whitespace (String.ofList blanks)) (cs.dropWhile Text.isBlank)

def closerRule : Rule
  | '}' :: '}' :: cs => .taken .closer cs
  | _ => .refused

def escape? (c : Char) : Option Char :=
  if c = '\\' ∨ c = '"' then some c
  else if c = 'n' then some '\n'
  else if c = 't' then some '\t'
  else none

/-- The value of a literal whose opening quote has been read, and what follows its closing quote. -/
def literalBody : List Char → Except Fault (List Char × List Char)
  | [] => .error .unterminatedLiteral
  | '"' :: cs => .ok ([], cs)
  | ['\\'] => .error .unterminatedLiteral
  | '\\' :: c :: cs =>
    match escape? c with
    | some e => (literalBody cs).map fun (value, rest) => (e :: value, rest)
    | none => .error .invalidEscape
  | c :: cs => (literalBody cs).map fun (value, rest) => (c :: value, rest)

def literalRule : Rule
  | '"' :: cs =>
    match literalBody cs with
    | .ok (value, rest) => .taken (.literal (String.ofList value)) rest
    | .error fault => .broken fault
  | _ => .refused

def symbolRule : Rule
  | '.' :: cs => .taken .dot cs
  | '(' :: cs => .taken .leftParen cs
  | ')' :: cs => .taken .rightParen cs
  | _ => .refused

def isIdentifierChar (c : Char) : Bool :=
  Text.isAlphanumeric c || c = '_' || c = '$' || c = '-'

def identifierRule : Rule := fun cs =>
  match cs.takeWhile isIdentifierChar with
  | [] => .refused
  | name => .taken (.identifier (String.ofList name)) (cs.dropWhile isIdentifierChar)

/-! ## The two modes -/

def outsideRule : Rule :=
  firstOf [commentRule, openerRule, textRule]

def insideRule : Rule :=
  firstOf [whitespaceRule, closerRule, literalRule, symbolRule, identifierRule]

end Stencil.Token
