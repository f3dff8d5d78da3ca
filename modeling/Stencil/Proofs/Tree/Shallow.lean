import Stencil.Proofs.Render.Refusal

/-!
# Templates from documents are shallow

`Template.shallow_of_ofDocument`: what is read from a document is at most 62 levels deep, whatever
form the document has, so it is never refused for its depth.

A level of nesting takes two containers in the document of the tree, a node and the list in it
(`Expression.callDepth_le_nesting`, `Statement.depth_le_nesting`), and that document nests no deeper
than the one that was read.
-/

namespace Stencil

open Stencil.Json

mutual

theorem Expression.callDepth_le_nesting : ∀ e : Expression, 2 * e.callDepth ≤ e.toJson.nesting
  | .literal _ => Nat.zero_le _
  | .path _ => Nat.zero_le _
  | .call name arguments => by
    have harguments := Expression.callDepths_le_nesting arguments
    rw [Expression.callDepth, Expression.toJson, nesting_node]
    simp only [nestingEntries, Json.nesting]
    omega

theorem Expression.callDepths_le_nesting : ∀ es : List Expression,
    2 * Expression.callDepths es ≤ nestingItems (Expression.listToJson es)
  | [] => Nat.zero_le _
  | e :: es => by
    have he := Expression.callDepth_le_nesting e
    have hes := Expression.callDepths_le_nesting es
    rw [Expression.callDepths, Expression.listToJson, nestingItems]
    omega

end

mutual

theorem Statement.depth_le_nesting : ∀ s : Statement,
    2 * max s.blockDepth s.callDepth ≤ s.toJson.nesting
  | .text _ => Nat.zero_le _
  | .comment _ => Nat.zero_le _
  | .unknown => Nat.zero_le _
  | .interpolation e => by
    have he := e.callDepth_le_nesting
    rw [Statement.blockDepth, Statement.callDepth, Statement.toJson, nesting_node]
    · simp only [nestingEntries]
      omega
    · simp
  | .block e negated body elseBody => by
    have he := e.callDepth_le_nesting
    have hbody := Statement.depths_le_nesting body
    have helse := Statement.elseDepth_le_nesting elseBody
    rw [← Nat.mul_max_mul_left, Nat.max_le] at hbody helse
    rw [Statement.blockDepth, Statement.callDepth, Statement.toJson, nesting_node,
      ← Nat.mul_max_mul_left]
    simp only [List.cons_append, List.nil_append, nestingEntries, Json.nesting]
    exact Nat.max_le.2 ⟨by omega, by omega⟩

theorem Statement.depths_le_nesting : ∀ ss : List Statement,
    2 * max (Statement.blockDepths ss) (Statement.callDepths ss) ≤
      nestingItems (Statement.listToJson ss)
  | [] => Nat.zero_le _
  | s :: ss => by
    have hs := Statement.depth_le_nesting s
    have hss := Statement.depths_le_nesting ss
    rw [Statement.blockDepths, Statement.callDepths, Statement.listToJson, nestingItems]
    omega

/-- The array of an else body is a container of its own. -/
theorem Statement.elseDepth_le_nesting : ∀ elseBody : Option (List Statement),
    2 * max (Statement.elseBlockDepth elseBody) (Statement.elseCallDepth elseBody) ≤
      nestingEntries (Statement.elseToJson elseBody) - 1
  | none => Nat.zero_le _
  | some ss => by
    have hss := Statement.depths_le_nesting ss
    rw [Statement.elseBlockDepth, Statement.elseCallDepth, Statement.elseToJson]
    simp only [nestingEntries, Json.nesting]
    omega

end

/-- The template and the list of its statements are two containers around all levels. -/
theorem Template.nestingDepth_le_nesting (t : Template) :
    2 * t.nestingDepth + 2 ≤ t.toJson.nesting := by
  have hstatements := Statement.depths_le_nesting t.statements
  rw [Template.nestingDepth_eq, Template.toJson, nesting_node]
  simp only [nestingEntries, Json.nesting]
  omega

open Render

/-- **Shallow templates.** A template that has been read from a text, in whatever form it is kept
there, is at most 62 levels deep. Rendering never refuses it for its depth, whatever the helpers and
the context are. -/
theorem Template.shallow_of_ofDocument (s : String) (t : Template)
    (h : Template.ofDocument s = .ok t) :
    t.nestingDepth ≤ 62 ∧
    ∀ (σ : Type) (env : Environment σ) (context : Value) (state : σ) (depth : Nat),
      (runFrom (t.render env context) state).1 ≠ .error (.nestingTooDeep depth) := by
  have hlevels := t.nestingDepth_le_nesting
  have hcontainers := (Template.storable_of_ofDocument h).nesting
  have hdepth : t.nestingDepth ≤ 62 := by omega
  refine ⟨hdepth, fun σ env context state depth hdeep => ?_⟩
  have hrefused := ((Template.nestingTooDeep_iff env context state depth).1 hdeep).2.1
  have hlimit : Template.depthLimit = 128 := rfl
  omega

/-- With 62 blocks in each other the bound is met. -/
theorem Template.shallow_of_ofDocument_nestedBlocks :
    let t : Template := .ofStatements (nestedBlocks 62)
    Template.ofDocument t.document = .ok t ∧ t.nestingDepth = 62 ∧
      ∀ depth, (runFrom (t.render ⟨Registry.empty, .standard⟩ .null) ()).1 ≠
        .error (.nestingTooDeep depth) := by
  intro t
  have hread : Template.ofDocument t.document = .ok t := by
    refine Template.ofDocument_document ⟨by decide, by decide, ?_⟩
    rw [nesting_nestedBlocks]
    omega
  have hdepth : t.nestingDepth = 62 := by
    rw [Template.nestingDepth_eq]
    show max (Statement.blockDepths (nestedBlocks 62)) (Statement.callDepths (nestedBlocks 62)) = 62
    rw [blockDepths_nestedBlocks, callDepths_nestedBlocks]
    rfl
  exact ⟨hread, hdepth, (Template.shallow_of_ofDocument _ t hread).2 _ _ _ _⟩

end Stencil
