/-!
# Template trees

A template is a list of statements and the version of the format it is kept in. Expressions are
written inside of markers: a literal text, a dotted path into the context, or a helper called with
arguments.
-/

namespace Stencil

inductive Expression
  | literal (value : String)
  | path (segments : List String)
  | call (name : String) (arguments : List Expression)
deriving Inhabited

/-- The name that closes a block opened with the expression. -/
def Expression.blockName : Expression → String
  | literal value => value
  | path segments => ".".intercalate segments
  | call name _ => name

/-- A block renders its body depending on the value of its expression, or its else body if it has
one. Statements of kinds that are not known stand for nothing. -/
inductive Statement
  | text (value : String)
  | comment (value : String)
  | interpolation (expression : Expression)
  | block (expression : Expression) (negated : Bool) (body : List Statement)
      (elseBody : Option (List Statement))
  | unknown
deriving Inhabited

/-- The expression of a statement that has one. -/
def Statement.expression? : Statement → Option Expression
  | interpolation e => some e
  | block e _ _ _ => some e
  | _ => none

structure Template where
  version : Int
  statements : List Statement
deriving Inhabited

/-- The version that is rendered. -/
def Template.currentVersion : Int := 1

/-- Blocks, and helper calls of one expression, nest at most this deep. -/
def Template.depthLimit : Nat := 128

def Template.ofStatements (statements : List Statement) : Template :=
  ⟨currentVersion, statements⟩

end Stencil
