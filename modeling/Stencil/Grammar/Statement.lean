import Stencil.Grammar.Expression

/-!
# The grammar of statements

Statements follow each other up to the end, or to a closing tag or an else tag, which the block
around them reads. A block is closed under the name of the expression it was opened with.

`bodyWithin` takes bounds on the nesting of blocks and of calls, and what to do beyond them;
`body` uses the number of tokens, which cannot be exceeded.
-/

namespace Stencil.Grammar

open Stencil.Parser

/-- Whether a rule reads something here. -/
def applies {α : Type} (rule : Rule α) (input : List Token) (pos : Nat) : Bool :=
  (rule input pos).isOk

def opener (marker : Marker) : Rule Unit :=
  preceded (token (.opener marker)) optWhitespace

def closer : Rule Unit :=
  preceded optWhitespace (token .closer)

def elseTag : Rule Unit :=
  delimited (opener .interpolation) (token (.identifier "else")) closer

/-- The name in a closing tag. -/
def closeTag : Rule String :=
  delimited (opener .blockClose) (path.map Expression.blockName) closer

def textStatement : Rule Statement :=
  satisfy "text" fun
    | .text value => some (.text value)
    | _ => none

def commentStatement : Rule Statement :=
  satisfy "comment" fun
    | .comment value => some (.comment value)
    | _ => none

def interpolation (expression : Rule Expression) : Rule Statement :=
  withContext
    ((delimited (opener .interpolation) expression closer).map .interpolation)
    "mustache"

/-- Whether the block is negated, and its expression. -/
def blockOpener (expression : Rule Expression) : Rule (Bool × Expression) :=
  pair
    (choice
      [(token (.opener .blockOpen)).map fun _ => false,
       (token (.opener .invertedOpen)).map fun _ => true])
    (delimited optWhitespace expression closer)

/-- The else tag and the statements behind it, if there is one. -/
def elseBranch (body : Rule (List Statement)) : Rule (Option (List Statement)) := fun input pos =>
  match elseTag input pos with
  | .ok (pos, _) => body.map some input pos
  | .error _ => .ok (pos, none)

/-- The closing tag of the block `name` that was opened at `start`. -/
def blockEnd (name : String) (start : Nat) : Rule Unit := fun input pos =>
  match closeTag input pos with
  | .ok (next, closing) =>
    if closing = name then .ok (next, ())
    else .error (.failure (.mismatchedClose closing name) pos)
  | .error _ => .error (.failure (.unclosedBlock name) start)

def blockWith (expression : Rule Expression) (body : Rule (List Statement)) : Rule Statement :=
  fun input start => do
    let (pos, negated, e) ← withContext (blockOpener expression) "section" input start
    let (pos, statements) ← body input pos
    let (pos, elseStatements) ← elseBranch body input pos
    if applies elseTag input pos then throw (.failure (.duplicateElse e.blockName) pos)
    let (pos, _) ← blockEnd e.blockName start input pos
    return (pos, .block e negated statements elseStatements)

def statementWith (expression : Rule Expression) (body : Rule (List Statement)) :
    Rule Statement :=
  choice
    [blockWith expression body, interpolation expression, textStatement, commentStatement]

/-- Whether the statements go on at a position. -/
def goesOn (input : List Token) (pos : Nat) : Bool :=
  decide (pos < input.length) && !applies closeTag input pos && !applies elseTag input pos

def statementsFrom (statement : Rule Statement) (input : List Token) :
    Nat → Nat → Except (ParseError Fault) (Nat × List Statement)
  | 0, pos => .ok (pos, [])
  | limit + 1, pos =>
    if goesOn input pos then do
      let (next, s) ← statement input pos
      let (stop, ss) ← statementsFrom statement input limit next
      return (stop, s :: ss)
    else .ok (pos, [])

/-- Every statement reads a token, so there are no more statements than tokens. -/
def statements (statement : Rule Statement) : Rule (List Statement) := fun input pos =>
  statementsFrom statement input (input.length - pos) pos

/-- The statements of a body in which blocks nest at most `blocks` deep, and `deeper` reads the
bodies below. -/
def bodyWith (expression : Rule Expression) (deeper : Rule (List Statement)) :
    Nat → Rule (List Statement)
  | 0, input, pos => statements (statementWith expression deeper) input pos
  | blocks + 1, input, pos =>
    statements (statementWith expression (bodyWith expression deeper blocks)) input pos

def bodyWithin (deeperCalls : Rule Expression) (deeperBodies : Rule (List Statement))
    (calls blocks : Nat) : Rule (List Statement) :=
  bodyWith (expressionWithin deeperCalls calls) deeperBodies blocks

/-- Every block and every parenthesis is opened by a token, so the number of tokens bounds how
deep they nest. -/
def body : Rule (List Statement) := fun input pos =>
  bodyWithin beyond beyond input.length input.length input pos

end Stencil.Grammar
