import Stencil.Render
import Stencil.Tree.Source

/-!
# Reports

How failures are put to the users of engines: the stage that failed, and its message.
-/

namespace Stencil

def SyntaxError.report (e : SyntaxError) : String :=
  "Syntax error: " ++ e.message

def RenderError.report (e : RenderError) : String :=
  "Eval error: " ++ e.message

end Stencil
