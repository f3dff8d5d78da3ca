import Stencil.Proofs.Render.Invocation
import Stencil.Proofs.Render.Sequence
import Stencil.Proofs.Tree.Normal

/-!
# Rendering normal forms

`Template.render_normal`: a template and its normal form render alike, whatever the helpers do. What
is left out renders nothing, texts that are one render what they render side by side, and blocks
render bodies that do the same in any context.
-/

namespace Stencil

open Render

section Statements

variable {σ : Type} (env : Environment σ)

mutual

theorem Statement.renderAll_normal : ∀ (s : Statement) (context : Value),
    Statement.renderAll env s.normal.toList context = s.render env context
  | .text value, context => by
    rw [Statement.normal, Statement.render]
    split
    · rename_i hempty
      rw [hempty, Option.toList_none, Statement.renderAll]
    · rw [Option.toList_some, Statement.renderAll_singleton, Statement.render]
  | .comment _, _ => by
    rw [Statement.normal, Statement.render, Option.toList_none, Statement.renderAll]
  | .interpolation e, context => by
    rw [Statement.normal, Option.toList_some, Statement.renderAll_singleton]
  | .block e negated body elseBody, context => by
    have hbody := Statement.renderAll_normalAll body
    have helse := Statement.renderElse_normalElse elseBody
    rw [Statement.normal, Option.toList_some, Statement.renderAll_singleton, Statement.render,
      Statement.render, hbody, helse]
  | .unknown, _ => by
    rw [Statement.normal, Statement.render, Option.toList_none, Statement.renderAll]

/-- As functions of the context, since a block renders its body in contexts of its own. -/
theorem Statement.renderAll_normalAll : ∀ ss : List Statement,
    Statement.renderAll env (Statement.normalAll ss) = Statement.renderAll env ss
  | [] => by rw [Statement.normalAll]
  | s :: ss => by
    funext context
    have hs := Statement.renderAll_normal s context
    have hss := Statement.renderAll_normalAll ss
    rw [Statement.normalAll, Statement.renderAll_joined, hs, hss, Statement.renderAll_cons]

theorem Statement.renderElse_normalElse : ∀ elseBody : Option (List Statement),
    Statement.renderElse env (Statement.normalElse elseBody) = Statement.renderElse env elseBody
  | none => by rw [Statement.normalElse]
  | some ss => by
    funext context
    have hss := Statement.renderAll_normalAll ss
    rw [Statement.normalElse, Statement.renderElse, Statement.renderElse, hss]

end

theorem Template.render_normal_eq (t : Template) (context : Value) :
    t.normal.render env context = t.render env context := by
  have hstatements : Statement.renderAll env t.normal.statements =
      Statement.renderAll env t.statements := Statement.renderAll_normalAll env t.statements
  unfold Template.render
  rw [Template.nestingDepth_normal, hstatements]
  rfl

end Statements

/-- **Normal forms render alike.** The normal form of a template has no comments, no statements of
unknown kinds, no empty texts and no texts side by side, and it is its own normal form. It ends with
the output or the error that the template ends with, errors about version and depth included, leaves
the same state behind and invokes the same helpers with the same arguments in the same order. -/
theorem Template.render_normal (t : Template) :
    (∀ (σ : Type) (env : Environment σ) (context : Value) (state : σ),
      runFrom (t.normal.render env context) state = runFrom (t.render env context) state ∧
      runFrom (t.normal.render env.recorded context) (state, []) =
        runFrom (t.render env.recorded context) (state, [])) ∧
    t.normal.version = t.version ∧ t.normal.nestingDepth = t.nestingDepth ∧
    t.normal.IsNormal ∧ t.normal.normal = t.normal := by
  refine ⟨fun σ env context state => ⟨?_, ?_⟩, rfl, t.nestingDepth_normal, t.isNormal_normal,
    Template.normal_of_isNormal t.isNormal_normal⟩
  · rw [Template.render_normal_eq]
  · rw [Template.render_normal_eq]

/-- A comment between two texts, an empty text, and an else body in which nothing is left. -/
example : (Template.ofStatements [.text "a", .comment "b", .text "c", .text "",
    .block (.path ["x"]) false [.unknown, .text "d"] (some [.comment "e"]), .text ""]).normal =
      .ofStatements [.text "ac", .block (.path ["x"]) false [.text "d"] (some [])] := by
  rfl

end Stencil
