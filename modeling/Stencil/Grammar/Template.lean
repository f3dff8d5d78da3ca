import Stencil.Grammar.Statement

/-!
# The grammar of templates

A template is a body that takes up all tokens. Before its tokens are read, a scan over them refuses
blocks, and calls in parentheses, that nest too deep.
-/

namespace Stencil.Grammar

/-! ## The depth of tokens -/

/-- The blocks and the parentheses that are open. -/
structure Nesting where
  blocks : Nat
  calls : Nat
deriving DecidableEq

namespace Nesting

def none : Nesting :=
  ⟨0, 0⟩

/-- A closing token without an opening one counts for nothing, and parentheses end with their
marker. -/
def next (n : Nesting) : Token → Nesting
  | .opener .blockOpen => { n with blocks := n.blocks + 1 }
  | .opener .invertedOpen => { n with blocks := n.blocks + 1 }
  | .opener .blockClose => { n with blocks := n.blocks - 1 }
  | .leftParen => { n with calls := n.calls + 1 }
  | .rightParen => { n with calls := n.calls - 1 }
  | .closer => { n with calls := 0 }
  | _ => n

/-- The outermost call of an expression has no parentheses. -/
def fault? (n : Nesting) : Option Fault :=
  if Template.depthLimit < n.blocks then some .blocksTooDeep
  else if Template.depthLimit ≤ n.calls then some .callsTooDeep
  else .none

end Nesting

/-- The first token at which the nesting is too deep, when `n` is open before the token at `pos`. -/
def nestingError? (n : Nesting) (pos : Nat) : List Token → Option (ParseError Fault)
  | [] => none
  | t :: ts =>
    match (n.next t).fault? with
    | some fault => some (.failure fault pos)
    | none => nestingError? (n.next t) (pos + 1) ts

/-! ## Whole templates -/

/-- What is wrong with the tag that stands where a template should end. -/
def leftover (tokens : List Token) (pos : Nat) : Fault :=
  match closeTag tokens pos with
  | .ok (_, name) => .strayClose name
  | .error _ => .strayElse

/-- A template whose body is read by `rule`. -/
def templateWith (rule : Rule (List Statement)) (tokens : List Token) :
    Except (ParseError Fault) Template :=
  match nestingError? .none 0 tokens with
  | some e => .error e
  | none =>
    match rule tokens 0 with
    | .error e => .error e
    | .ok (pos, statements) =>
      if pos < tokens.length then .error (.failure (leftover tokens pos) pos)
      else .ok (.ofStatements statements)

def template (tokens : List Token) : Except (ParseError Fault) Template :=
  templateWith body tokens

end Stencil.Grammar
