import Stencil.Helper
import Stencil.Path
import Stencil.Tree.Depth

/-!
# Rendering

Statements are rendered in their order, and the arguments of a call from left to right before the
helper is looked up. Helpers change the state as they are called; the first error ends the
rendering and leaves the state as it is then.

A block over an array renders its body for every item, and over an object once; the body sees the
item, or the object, where that is an object, and else what the block sees. Any other value
lets the body be rendered if it is truthy, and the else body otherwise. A negated block only
looks at whether the value is truthy.
-/

namespace Stencil

inductive RenderError
  | unsupportedVersion (found : Int)
  | nestingTooDeep (depth : Nat)
  | unknownHelper (name : String)
  | helperFailed (name : String) (error : HelperError)
deriving DecidableEq

def RenderError.message : RenderError → String
  | unsupportedVersion found =>
    "unsupported syntax tree version " ++ toString found ++ ", expected "
      ++ toString Template.currentVersion
  | nestingTooDeep depth =>
    "syntax tree nests " ++ toString depth ++ " levels deep, at most "
      ++ toString Template.depthLimit ++ " are supported"
  | unknownHelper name => "unknown helper `" ++ name ++ "`"
  | helperFailed name error => "helper `" ++ name ++ "` failed: " ++ error.text

/-- Computations that may fail and that change the state of the helpers. -/
abbrev Render (σ α : Type) := ExceptT RenderError (StateM σ) α

/-- What rendering depends on besides the tree and the context. -/
structure Environment (σ : Type) where
  helpers : Registry σ
  denylist : Denylist

instance {σ : Type} : Inhabited (Environment σ) := ⟨⟨.empty, .standard⟩⟩

variable {σ : Type}

namespace Environment

/-- Calls the helper of a name with arguments that have been evaluated. -/
def invoke (env : Environment σ) (name : String) (arguments : List Value) : Render σ Value := do
  match env.helpers.get? name with
  | none => throw (.unknownHelper name)
  | some helper =>
    match ← modifyGet (helper arguments) with
    | .ok v => return v
    | .error e => throw (.helperFailed name e)

end Environment

mutual

def Expression.eval (env : Environment σ) (context : Value) : Expression → Render σ Value
  | .literal value => return .string value
  | .path segments => return env.denylist.resolve context segments
  | .call name arguments => do
    let values ← Expression.evalAll env context arguments
    env.invoke name values

def Expression.evalAll (env : Environment σ) (context : Value) :
    List Expression → Render σ (List Value)
  | [] => return []
  | e :: es => do
    let v ← e.eval env context
    let vs ← Expression.evalAll env context es
    return v :: vs

end

namespace Render

/-- The body for every item of an array, one after the other. -/
def items (body : Value → Render σ String) (context : Value) : List Value → Render σ String
  | [] => return ""
  | v :: vs => do
    let first ← body (if v.isObject then v else context)
    let rest ← items body context vs
    return first ++ rest

/-- A block whose expression has the value `v`. -/
def block (body : Value → Render σ String) (elseBody : Value → Render σ String) (negated : Bool)
    (context v : Value) : Render σ String :=
  if negated then
    if v.isTruthy then elseBody context else body context
  else
    match v with
    | .array [] => elseBody context
    | .array vs => items body context vs
    | .object entries => body (.object entries)
    | v => if v.isTruthy then body context else elseBody context

end Render

mutual

def Statement.render (env : Environment σ) : Statement → Value → Render σ String
  | .text value, _ => return value
  | .comment _, _ => return ""
  | .interpolation e, context => do
    let v ← e.eval env context
    return v.output
  | .block e negated body elseBody, context => do
    let v ← e.eval env context
    Render.block (fun c => Statement.renderAll env body c)
      (fun c => Statement.renderElse env elseBody c) negated context v
  | .unknown, _ => return ""

def Statement.renderAll (env : Environment σ) : List Statement → Value → Render σ String
  | [], _ => return ""
  | s :: ss, context => do
    let first ← s.render env context
    let rest ← Statement.renderAll env ss context
    return first ++ rest

/-- An else body that is not there renders nothing. -/
def Statement.renderElse (env : Environment σ) :
    Option (List Statement) → Value → Render σ String
  | none, _ => return ""
  | some ss, context => Statement.renderAll env ss context

end

/-- Trees of another version, or nested too deep, are refused before any helper is called. -/
def Template.render (env : Environment σ) (t : Template) (context : Value) : Render σ String :=
  if t.version ≠ Template.currentVersion then throw (.unsupportedVersion t.version)
  else if Template.depthLimit < t.nestingDepth then throw (.nestingTooDeep t.nestingDepth)
  else Statement.renderAll env t.statements context

end Stencil
