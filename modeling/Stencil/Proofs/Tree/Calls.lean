import Stencil.Tree

/-!
# The calls of a tree

The expressions of a tree in the order in which they are written, and the calls of an expression in
the order in which they end: arguments from left to right, and a call behind its arguments.
-/

namespace Stencil

mutual

/-- The calls of an expression, inner ones before outer ones. -/
def Expression.calls : Expression → List Expression
  | .literal _ => []
  | .path _ => []
  | .call name arguments => Expression.allCalls arguments ++ [.call name arguments]

def Expression.allCalls : List Expression → List Expression
  | [] => []
  | e :: es => e.calls ++ Expression.allCalls es

end

mutual

def Statement.expressions : Statement → List Expression
  | .interpolation e => [e]
  | .block e _ body elseBody =>
    e :: (Statement.allExpressions body ++ Statement.elseExpressions elseBody)
  | _ => []

def Statement.allExpressions : List Statement → List Expression
  | [] => []
  | s :: ss => s.expressions ++ Statement.allExpressions ss

def Statement.elseExpressions : Option (List Statement) → List Expression
  | none => []
  | some ss => Statement.allExpressions ss

end

/-- All calls in the tree. -/
def Template.calls (t : Template) : List Expression :=
  (Statement.allExpressions t.statements).flatMap Expression.calls

end Stencil
