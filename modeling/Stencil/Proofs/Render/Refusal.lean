import Stencil.Proofs.Render.Invocation
import Stencil.Proofs.Tree.Reload

/-!
# Templates that are refused

`Template.render_refusal`: the depth that is measured on a stack is the larger one of two depths
along the tree, that of its blocks and that of the calls in its expressions. A template is refused
for its version just if that is not the current one, and for its depth just if the version is right
and the depth beyond its limit. No helper has been called by then.
-/

namespace Stencil

/-! ## The depth of the expressions -/

theorem Expression.callDepths_append (es es' : List Expression) :
    Expression.callDepths (es ++ es') =
      max (Expression.callDepths es) (Expression.callDepths es') := by
  induction es with
  | nil => rw [List.nil_append, Expression.callDepths, Nat.zero_max]
  | cons e es ih =>
    rw [List.cons_append, Expression.callDepths, Expression.callDepths, ih, Nat.max_assoc]

mutual

theorem Statement.callDepth_eq : ∀ s : Statement,
    s.callDepth = Expression.callDepths s.expressions
  | .text _ | .comment _ | .unknown => rfl
  | .interpolation e => by
    rw [Statement.callDepth, Statement.expressions, Expression.callDepths, Expression.callDepths,
      Nat.max_zero]
  | .block e negated body elseBody => by
    rw [Statement.callDepth, Statement.expressions, Expression.callDepths,
      Expression.callDepths_append, Statement.callDepths_eq body,
      Statement.elseCallDepth_eq elseBody]

theorem Statement.callDepths_eq : ∀ ss : List Statement,
    Statement.callDepths ss = Expression.callDepths (Statement.allExpressions ss)
  | [] => rfl
  | s :: ss => by
    rw [Statement.callDepths, Statement.allExpressions, Expression.callDepths_append,
      Statement.callDepth_eq s, Statement.callDepths_eq ss]

theorem Statement.elseCallDepth_eq : ∀ elseBody : Option (List Statement),
    Statement.elseCallDepth elseBody =
      Expression.callDepths (Statement.elseExpressions elseBody)
  | none => rfl
  | some ss => Statement.callDepths_eq ss

end

/-! ## Refusals -/

open Render

section Refusals

variable {σ : Type} {t : Template} (env : Environment σ)

theorem Template.render_of_version_ne (h : t.version ≠ Template.currentVersion) (context : Value) :
    t.render env context = throw (.unsupportedVersion t.version) := by
  unfold Template.render
  rw [if_pos h]

theorem Template.render_of_depth_lt (hversion : t.version = Template.currentVersion)
    (hdepth : Template.depthLimit < t.nestingDepth) (context : Value) :
    t.render env context = throw (.nestingTooDeep t.nestingDepth) := by
  unfold Template.render
  rw [if_neg (not_not_intro hversion), if_pos hdepth]

/-- What becomes of a template: it is refused for its version, or for its depth, or rendered, which
fails for calls only. -/
theorem Template.render_cases (t : Template) (context : Value) :
    (t.version ≠ Template.currentVersion ∧
      t.render env context = throw (.unsupportedVersion t.version)) ∨
    (t.version = Template.currentVersion ∧ Template.depthLimit < t.nestingDepth ∧
      t.render env context = throw (.nestingTooDeep t.nestingDepth)) ∨
    (t.version = Template.currentVersion ∧ t.nestingDepth ≤ Template.depthLimit ∧
      FailsOnly RenderError.OfCall (t.render env context)) := by
  by_cases hversion : t.version = Template.currentVersion
  · right
    by_cases hdepth : Template.depthLimit < t.nestingDepth
    · exact .inl ⟨hversion, hdepth, Template.render_of_depth_lt env hversion hdepth context⟩
    · refine .inr ⟨hversion, Nat.le_of_not_lt hdepth, ?_⟩
      rw [Template.render_eq_renderAll env hversion (Nat.le_of_not_lt hdepth)]
      exact Statement.failsOnly_renderAll env t.statements context
  · exact .inl ⟨hversion, Template.render_of_version_ne env hversion context⟩

theorem Template.unsupportedVersion_iff (context : Value) (state : σ) (version : Int) :
    (runFrom (t.render env context) state).1 = .error (.unsupportedVersion version) ↔
      t.version ≠ Template.currentVersion ∧ version = t.version := by
  obtain ⟨hversion, hrender⟩ | ⟨hversion, hdepth, hrender⟩ | ⟨hversion, -, hrender⟩ :=
    t.render_cases env context
  · rw [hrender, runFrom_throw]
    simp [hversion, eq_comm]
  · rw [hrender, runFrom_throw]
    simp [hversion]
  · refine iff_of_false (fun herror => ?_) fun h => h.1 hversion
    cases hrender state _ herror

theorem Template.nestingTooDeep_iff (context : Value) (state : σ) (depth : Nat) :
    (runFrom (t.render env context) state).1 = .error (.nestingTooDeep depth) ↔
      t.version = Template.currentVersion ∧ Template.depthLimit < t.nestingDepth ∧
        depth = t.nestingDepth := by
  obtain ⟨hversion, hrender⟩ | ⟨hversion, hdepth, hrender⟩ | ⟨hversion, hdepth, hrender⟩ :=
    t.render_cases env context
  · rw [hrender, runFrom_throw]
    simp [hversion]
  · rw [hrender, runFrom_throw]
    simp [hversion, hdepth, eq_comm]
  · refine iff_of_false (fun herror => ?_) fun h => by omega
    cases hrender state _ herror

end Refusals

/-- **Depth and refusal.** The walk over a template finds the larger one of two depths: that of its
blocks, where a block is one deeper than its bodies, and that of the calls in its expressions,
each counted by itself. Rendering reports another version just if the version is not 1, and too
much depth just if it is 1 and that depth is above 128. Then it has called no helper. -/
theorem Template.render_refusal (t : Template) :
    t.nestingDepth = max (Statement.blockDepths t.statements)
      (Expression.callDepths (Statement.allExpressions t.statements)) ∧
    ∀ (σ : Type) (env : Environment σ) (context : Value) (state : σ),
      (∀ version, (runFrom (t.render env context) state).1 = .error (.unsupportedVersion version) ↔
        t.version ≠ 1 ∧ version = t.version) ∧
      (∀ depth, (runFrom (t.render env context) state).1 = .error (.nestingTooDeep depth) ↔
        t.version = 1 ∧ 128 < t.nestingDepth ∧ depth = t.nestingDepth) ∧
      (t.version ≠ 1 ∨ 128 < t.nestingDepth → ∃ e,
        runFrom (t.render env context) state = (.error e, state) ∧
          runFrom (t.render env.recorded context) (state, []) = (.error e, state, [])) := by
  refine ⟨?_, fun σ env context state => ⟨Template.unsupportedVersion_iff env context state,
    Template.nestingTooDeep_iff env context state, fun h => ?_⟩⟩
  · rw [Template.nestingDepth_eq, Statement.callDepths_eq]
  · by_cases hversion : t.version = Template.currentVersion
    · have hdepth : Template.depthLimit < t.nestingDepth := h.resolve_left (not_not_intro hversion)
      refine ⟨.nestingTooDeep t.nestingDepth, ?_, ?_⟩
      · rw [Template.render_of_depth_lt env hversion hdepth, runFrom_throw]
      · rw [Template.render_of_depth_lt env.recorded hversion hdepth, runFrom_throw]
    · refine ⟨.unsupportedVersion t.version, ?_, ?_⟩
      · rw [Template.render_of_version_ne env hversion, runFrom_throw]
      · rw [Template.render_of_version_ne env.recorded hversion, runFrom_throw]

/-- A call in front of 129 blocks in each other is not made. -/
theorem Template.render_refusal_deep :
    let env : Environment Nat :=
      ⟨Registry.empty.register "next" fun _ n => (.ok .null, n + 1), .standard⟩
    let t : Template := .ofStatements (.interpolation (.call "next" []) :: nestedBlocks 129)
    128 < t.nestingDepth ∧ ∃ e, runFrom (t.render env .undefined) 0 = (.error e, 0) ∧
      runFrom (t.render env.recorded .undefined) (0, []) = (.error e, 0, []) := by
  intro env t
  have hdepth : 128 < t.nestingDepth := by
    have hblocks : Statement.blockDepths t.statements = 129 := by
      show max 0 (Statement.blockDepths (nestedBlocks 129)) = 129
      rw [blockDepths_nestedBlocks, Nat.zero_max]
    rw [Template.nestingDepth_eq, hblocks]
    exact Nat.lt_of_lt_of_le (by decide) (Nat.le_max_left 129 _)
  exact ⟨hdepth, ((Template.render_refusal t).2 Nat env .undefined 0).2.2 (.inr hdepth)⟩

end Stencil
