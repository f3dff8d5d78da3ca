import Stencil.Tree
import Stencil.Value.Inspect

/-!
# Inspecting trees

A text that shows the whole of a tree, kind by kind and field by field.
-/

namespace Stencil

mutual

def Expression.inspect : Expression → String
  | .literal value => Inspect.record "Literal" [("value", Text.quoted value)]
  | .path segments => Inspect.record "Path" [("segments", Inspect.strings segments)]
  | .call name arguments =>
    Inspect.record "HelperCall"
      [("name", Text.quoted name), ("arguments", Inspect.list (Expression.inspectAll arguments))]

def Expression.inspectAll : List Expression → List String
  | [] => []
  | e :: es => e.inspect :: Expression.inspectAll es

end

mutual

def Statement.inspect : Statement → String
  | .text value => Inspect.record "Text" [("value", Text.quoted value)]
  | .comment value => Inspect.record "Comment" [("value", Text.quoted value)]
  | .interpolation e => Inspect.record "Mustache" [("expression", e.inspect)]
  | .block e negated body elseBody =>
    Inspect.record "Section"
      [("expression", e.inspect), ("negated", Inspect.bool negated),
        ("body", Inspect.list (Statement.inspectAll body)),
        ("else_body", Inspect.option (Statement.inspectElse elseBody))]
  | .unknown => "Unknown"

def Statement.inspectAll : List Statement → List String
  | [] => []
  | s :: ss => s.inspect :: Statement.inspectAll ss

def Statement.inspectElse : Option (List Statement) → Option String
  | none => none
  | some ss => some (Inspect.list (Statement.inspectAll ss))

end

def Template.inspect (t : Template) : String :=
  Inspect.record "Template"
    [("kind", "Template"), ("version", toString t.version),
      ("statements", Inspect.list (Statement.inspectAll t.statements))]

end Stencil
