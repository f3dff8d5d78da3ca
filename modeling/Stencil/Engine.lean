import Stencil.Config
import Stencil.Helper.Builtin
import Stencil.Render
import Stencil.Tree.Source

/-!
# Engines

An engine has settings and the helpers of its family, and an evaluator that renders with both.
Copies of an engine, and the templates compiled with any of them, belong to one family: a helper
that one of them adds or removes is there, or gone, for all of them from then on. A workspace holds
the helpers of all families.
-/

namespace Stencil

structure Evaluator where
  /-- The place in the workspace of the helpers that it looks up. -/
  family : Nat
  denylist : Denylist
deriving DecidableEq, Inhabited

/-- An engine and its evaluator have the same helpers, and the evaluator denies what the settings
list. -/
structure Engine where
  /-- The place of the family's helpers in the workspace. -/
  family : Nat
  evaluator : Evaluator
  config : Config
  evaluator_family : evaluator.family = family := by rfl
  evaluator_denylist : evaluator.denylist = config.denylist := by rfl
deriving DecidableEq

/-- A template together with the evaluator of the engine that compiled it. -/
structure Compiled where
  tree : Template
  evaluator : Evaluator
deriving Inhabited

namespace Engine

/-- The engine and its evaluator both look up the helpers of this family. -/
def ofConfig (family : Nat) (config : Config) : Engine where
  family := family
  evaluator := ⟨family, config.denylist⟩
  config := config

instance : Inhabited Engine := ⟨.ofConfig 0 default⟩

/-- Engines of one family are equal but for their settings, and a copy keeps those, too. -/
def copy (e : Engine) : Engine :=
  e

def bind (e : Engine) (tree : Template) : Compiled :=
  ⟨tree, e.evaluator⟩

def compile (e : Engine) (source : String) : Except SyntaxError Compiled :=
  (Template.parse source).map e.bind

end Engine

/-- The helpers of every family, in the order in which the families began. -/
structure Workspace (σ : Type) where
  registries : List (Registry σ)
deriving Inhabited

namespace Workspace

variable {σ : Type}

def empty : Workspace σ :=
  ⟨[]⟩

/-- The helpers that a new engine starts with. -/
def initialRegistry (config : Config) : Registry σ :=
  if config.builtinHelpers then Registry.empty.registerBuiltins else .empty

/-- Begins a family. -/
def create (w : Workspace σ) (config : Config) : Engine × Workspace σ :=
  (.ofConfig w.registries.length config, ⟨w.registries ++ [initialRegistry config]⟩)

/-- The helpers of the family with this number. -/
def ofFamily (w : Workspace σ) (n : Nat) : Registry σ :=
  w.registries.getD n .empty

def registry (w : Workspace σ) (e : Engine) : Registry σ :=
  w.ofFamily e.family

/-- Changes the helpers of the engine's family. -/
def update (w : Workspace σ) (e : Engine) (f : Registry σ → Registry σ) : Workspace σ :=
  ⟨w.registries.modify e.family f⟩

def register (w : Workspace σ) (e : Engine) (name : String) (helper : Helper σ) : Workspace σ :=
  w.update e (·.register name helper)

def registerBuiltins (w : Workspace σ) (e : Engine) : Workspace σ :=
  w.update e (·.registerBuiltins)

/-- Also tells whether the helper was there. -/
def remove (w : Workspace σ) (e : Engine) (name : String) : Bool × Workspace σ :=
  ((w.registry e).contains name, w.update e (·.remove name))

def hasHelper (w : Workspace σ) (e : Engine) (name : String) : Bool :=
  (w.registry e).contains name

def helperNames (w : Workspace σ) (e : Engine) : List String :=
  (w.registry e).names

def environmentOf (w : Workspace σ) (v : Evaluator) : Environment σ :=
  ⟨w.ofFamily v.family, v.denylist⟩

def evaluate (w : Workspace σ) (v : Evaluator) (tree : Template) (context : Value) :
    Render σ String :=
  tree.render (w.environmentOf v) context

def environment (w : Workspace σ) (e : Engine) : Environment σ :=
  w.environmentOf e.evaluator

theorem environment_eq (w : Workspace σ) (e : Engine) :
    w.environment e = ⟨w.registry e, e.config.denylist⟩ := by
  rw [environment, environmentOf, e.evaluator_family, e.evaluator_denylist, registry]

def run (w : Workspace σ) (e : Engine) (tree : Template) (context : Value) : Render σ String :=
  w.evaluate e.evaluator tree context

def render (w : Workspace σ) (c : Compiled) (context : Value) : Render σ String :=
  w.evaluate c.evaluator c.tree context

end Workspace

end Stencil
