import Stencil.Parser.Combinators
import Stencil.Token
import Stencil.Tree

/-!
# The grammar of expressions

A lone identifier is a path; with arguments behind it, it is a helper call. An argument that is
itself a call stands in parentheses, and such a call may have no arguments.

The rules that contain themselves take a bound on how deep calls may stand in calls; `deeper`
reads what would go beyond it.
-/

namespace Stencil.Grammar

/-- What the grammar itself finds wrong. -/
inductive Fault
  | blocksTooDeep
  | callsTooDeep
  | strayClose (name : String)
  | strayElse
  | duplicateElse (name : String)
  | mismatchedClose (closing opening : String)
  | unclosedBlock (name : String)
deriving DecidableEq

namespace Fault

def quote (name : String) : String :=
  "`" ++ name ++ "`"

def elseTag : String :=
  "`\x7b\x7belse\x7d\x7d`"

def message : Fault → String
  | blocksTooDeep =>
    "sections nested deeper than " ++ toString Template.depthLimit ++ " levels"
  | callsTooDeep =>
    "helper calls nested deeper than " ++ toString Template.depthLimit ++ " levels"
  | strayClose name => "unexpected closing tag " ++ quote name
  | strayElse => elseTag ++ " outside of a section"
  | duplicateElse name => "section " ++ quote name ++ " has more than one " ++ elseTag
  | mismatchedClose closing opening =>
    "closing tag " ++ quote closing ++ " does not match opening tag " ++ quote opening
  | unclosedBlock name => "section " ++ quote name ++ " is never closed"

instance : ToString Fault := ⟨message⟩

end Fault

/-- A rule of the grammar. -/
abbrev Rule (α : Type) := Parser Fault Token α

open Stencil.Parser

/-! ## Single tokens -/

def token (t : Token) : Rule Unit :=
  discard (equal t)

def whitespace : Rule Unit :=
  satisfy "whitespace" fun
    | .whitespace _ => some ()
    | _ => none

def optWhitespace : Rule Unit :=
  discard (optional whitespace)

def identifier : Rule String :=
  satisfy "identifier" fun
    | .identifier name => some name
    | _ => none

def literal : Rule Expression :=
  satisfy "string literal" fun
    | .literal value => some (.literal value)
    | _ => none

/-! ## Paths and calls -/

def path : Rule Expression :=
  withContext
    ((pair identifier (many (preceded (token .dot) identifier))).map fun (first, rest) =>
      .path (first :: rest))
    "path"

/-- An argument, when `subexpression` reads the calls in parentheses. -/
def argumentWith (subexpression : Rule Expression) : Rule Expression :=
  withContext (choice [literal, subexpression, path]) "argument"

/-- The name and the arguments of a call in parentheses. -/
def parenthesized (argument : Rule Expression) : Rule Expression :=
  (pair (preceded optWhitespace identifier) (many (preceded whitespace argument))).map
    fun (name, arguments) => .call name arguments

/-- A call in parentheses with at most `calls` more of them inside each other behind its opening
one. -/
def subexpression (deeper : Rule Expression) : Nat → Rule Expression
  | 0, input, pos =>
    withContext (preceded (token .leftParen) deeper) "subexpression" input pos
  | calls + 1, input, pos =>
    withContext
      (delimited (token .leftParen) (parenthesized (argumentWith (subexpression deeper calls)))
        (preceded optWhitespace (token .rightParen)))
      "subexpression" input pos

def helperCall (argument : Rule Expression) : Rule Expression :=
  withContext
    ((pair identifier (many1 (preceded whitespace argument))).map fun (name, arguments) =>
      .call name arguments)
    "helper call"

/-- An expression whose calls in parentheses nest at most `calls` deep. -/
def expressionWithin (deeper : Rule Expression) (calls : Nat) : Rule Expression :=
  withContext (choice [helperCall (argumentWith (subexpression deeper calls)), literal, path])
    "expression"

/-- The answer of a rule beyond a bound that is never reached. -/
def beyond {α : Type} : Rule α := fun _ pos =>
  .error ⟨.noAlternative, pos, none⟩

/-- Every parenthesis is a token, so the number of tokens bounds how deep they nest. -/
def expression : Rule Expression := fun input pos =>
  expressionWithin beyond input.length input pos

end Stencil.Grammar
