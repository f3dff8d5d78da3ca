import Stencil.Engine
import Stencil.Tree.Inspect

/-!
# Inspecting engines

An engine shows the names of its helpers and its settings, a compiled template its tree.
-/

namespace Stencil

def Config.inspect (c : Config) : String :=
  Inspect.record "EngineConfig"
    [("unsafe_keys", Inspect.strings c.unsafeKeys),
      ("builtin_helpers", Inspect.bool c.builtinHelpers)]

def Registry.inspect {σ : Type} (r : Registry σ) : String :=
  Inspect.record "HelperRegistry" [("helpers", Inspect.strings r.names)]

def Workspace.inspect {σ : Type} (w : Workspace σ) (e : Engine) : String :=
  Inspect.record "Engine"
    [("helpers", (w.registry e).inspect), ("config", e.config.inspect)]

def Compiled.inspect (c : Compiled) : String :=
  Inspect.record "CompiledTemplate" [("tree", c.tree.inspect)]

end Stencil
