import Stencil.Proofs.Engine.Session
import Stencil.Proofs.Helper.Registry
import Stencil.Proofs.Render.Invocation

/-!
# Helpers that a template does not name

Two environments agree on some calls if they deny the same names and have the same helpers under the
names of these calls. An expression is evaluated alike where its calls agree
(`Expression.eval_congr`), and a statement is rendered alike where its expressions are evaluated
alike (`Statement.render_congr_of_eval`). So `Template.render_eq_of_agreeOn`: a template is
rendered alike wherever its calls agree, and a helper that it does not name can be added, replaced
or removed.
-/

namespace Stencil

open Render

/-! ## Agreement -/

/-- The environments differ at most in helpers that none of the calls names. -/
structure Environment.AgreeOn {σ : Type} (calls : List Expression) (env other : Environment σ) :
    Prop where
  denies : ∀ name, env.denylist.denies name = other.denylist.denies name
  helpers : ∀ name arguments, .call name arguments ∈ calls →
    env.helpers.get? name = other.helpers.get? name

section Agreement

variable {σ : Type} {env other : Environment σ} {calls calls' : List Expression}

theorem Environment.AgreeOn.mono (h : AgreeOn calls env other) (hsub : calls' ⊆ calls) :
    AgreeOn calls' env other :=
  ⟨h.denies, fun name arguments hmem => h.helpers name arguments (hsub hmem)⟩

theorem Environment.AgreeOn.recorded (h : AgreeOn calls env other) :
    AgreeOn calls env.recorded other.recorded := by
  refine ⟨h.denies, fun name arguments hmem => ?_⟩
  show env.helpers.recorded.get? name = other.helpers.recorded.get? name
  rw [Registry.get?_recorded, Registry.get?_recorded, h.helpers name arguments hmem]

theorem Denylist.resolve_congr {d d' : Denylist} (h : ∀ name, d.denies name = d'.denies name)
    (v : Value) (segments : List String) : d.resolve v segments = d'.resolve v segments := by
  induction segments generalizing v with
  | nil => rfl
  | cons s ss ih =>
    rw [resolve, resolve, h s]
    split
    · rfl
    · split
      · exact ih _
      · rfl

theorem Environment.invoke_congr {name : String}
    (h : env.helpers.get? name = other.helpers.get? name) (values : List Value) :
    env.invoke name values = other.invoke name values := by
  unfold Environment.invoke
  rw [h]

/-! ## Expressions -/

mutual

theorem Expression.eval_congr (context : Value) : ∀ e : Expression,
    env.AgreeOn e.calls other → e.eval env context = e.eval other context
  | .literal _, _ => by rw [Expression.eval, Expression.eval]
  | .path segments, h => by
    rw [Expression.eval, Expression.eval, Denylist.resolve_congr h.denies]
  | .call name arguments, h => by
    rw [Expression.calls] at h
    have harguments := Expression.evalAll_congr context arguments
      (h.mono (List.subset_append_left _ _))
    have hname := h.helpers name arguments (List.mem_append_right _ (List.mem_singleton_self _))
    rw [Expression.eval, Expression.eval, harguments]
    exact bind_congr fun values => Environment.invoke_congr hname values

theorem Expression.evalAll_congr (context : Value) : ∀ es : List Expression,
    env.AgreeOn (Expression.allCalls es) other →
      Expression.evalAll env context es = Expression.evalAll other context es
  | [], _ => by rw [Expression.evalAll, Expression.evalAll]
  | e :: es, h => by
    rw [Expression.allCalls] at h
    have he := Expression.eval_congr context e (h.mono (List.subset_append_left _ _))
    have hes := Expression.evalAll_congr context es (h.mono (List.subset_append_right _ _))
    rw [Expression.evalAll, Expression.evalAll, he, hes]

end

/-! ## Statements -/

mutual

/-- A statement is rendered alike if its expressions are evaluated alike, whatever the context. -/
theorem Statement.render_congr_of_eval : ∀ s : Statement,
    (∀ e ∈ s.expressions, ∀ c, e.eval env c = e.eval other c) →
      ∀ context : Value, s.render env context = s.render other context
  | .text _, _, _ => by rw [Statement.render, Statement.render]
  | .comment _, _, _ => by rw [Statement.render, Statement.render]
  | .unknown, _, _ => by rw [Statement.render, Statement.render]
  | .interpolation e, h, context => by
    rw [Statement.render, Statement.render, h e (List.mem_singleton_self e) context]
  | .block e negated body elseBody, h, context => by
    rw [Statement.expressions, List.forall_mem_cons, List.forall_mem_append] at h
    obtain ⟨he, hbody, helse⟩ := h
    have hbody := funext (Statement.renderAll_congr_of_eval body hbody)
    have helse := funext (Statement.renderElse_congr_of_eval elseBody helse)
    rw [Statement.render, Statement.render, he context, hbody, helse]

theorem Statement.renderAll_congr_of_eval : ∀ ss : List Statement,
    (∀ e ∈ Statement.allExpressions ss, ∀ c, e.eval env c = e.eval other c) →
      ∀ context : Value, Statement.renderAll env ss context = Statement.renderAll other ss context
  | [], _, _ => by rw [Statement.renderAll, Statement.renderAll]
  | s :: ss, h, context => by
    rw [Statement.allExpressions, List.forall_mem_append] at h
    have hs := Statement.render_congr_of_eval s h.1 context
    have hss := Statement.renderAll_congr_of_eval ss h.2 context
    rw [Statement.renderAll, Statement.renderAll, hs, hss]

theorem Statement.renderElse_congr_of_eval : ∀ elseBody : Option (List Statement),
    (∀ e ∈ Statement.elseExpressions elseBody, ∀ c, e.eval env c = e.eval other c) →
      ∀ context : Value,
        Statement.renderElse env elseBody context = Statement.renderElse other elseBody context
  | none, _, _ => by rw [Statement.renderElse, Statement.renderElse]
  | some ss, h, context => by
    rw [Statement.renderElse, Statement.renderElse]
    exact Statement.renderAll_congr_of_eval ss h context

end

theorem Template.render_congr {t : Template} (h : env.AgreeOn t.calls other) (context : Value) :
    t.render env context = t.render other context := by
  have heval : ∀ e ∈ Statement.allExpressions t.statements, ∀ c,
      e.eval env c = e.eval other c := by
    intro e he c
    exact Expression.eval_congr c e (h.mono fun call hcall => List.mem_flatMap.2 ⟨e, he, hcall⟩)
  unfold Template.render
  rw [Statement.renderAll_congr_of_eval t.statements heval context]

end Agreement

/-! ## Changes to the helpers of a family -/

section Changes

variable {σ : Type} (w : Workspace σ) (engine e : Engine)

/-- A family has changed helpers or the helpers that it had. -/
theorem Workspace.registry_update_cases (f : Registry σ → Registry σ) :
    (w.update engine f).registry e = w.registry e ∨
      (w.update engine f).registry e = f (w.registry e) := by
  by_cases hfamily : engine.family = e.family
  · by_cases hlt : engine.family < w.registries.length
    · right
      show (w.update engine f).ofFamily e.family = f (w.ofFamily e.family)
      rw [← hfamily]
      exact w.ofFamily_update f hlt
    · left
      unfold Workspace.update
      rw [List.modify_eq_self (Nat.le_of_not_lt hlt)]
  · exact .inl (w.ofFamily_update_of_ne f hfamily)

/-- Where a change leaves the helpers of the calls alone, the environments before and after it
agree. -/
theorem Workspace.agreeOn_update {calls : List Expression} {f : Registry σ → Registry σ}
    (h : ∀ r : Registry σ, ∀ name arguments, .call name arguments ∈ calls →
      (f r).get? name = r.get? name) :
    Environment.AgreeOn calls ((w.update engine f).environment e) (w.environment e) := by
  rw [Workspace.environment_eq, Workspace.environment_eq]
  refine ⟨fun _ => rfl, fun name arguments hmem => ?_⟩
  show ((w.update engine f).registry e).get? name = (w.registry e).get? name
  rcases w.registry_update_cases engine e f with hsame | hchanged
  · rw [hsame]
  · rw [hchanged, h _ name arguments hmem]

variable {calls : List Expression} {name : String} (h : ∀ arguments, .call name arguments ∉ calls)

include h

theorem Workspace.agreeOn_register (helper : Helper σ) :
    Environment.AgreeOn calls ((w.register engine name helper).environment e)
      (w.environment e) := by
  refine w.agreeOn_update engine e fun r called arguments hmem => ?_
  have hne : called ≠ name := fun heq => h arguments (heq ▸ hmem)
  rw [Registry.get?_register, Function.update_of_ne hne]

theorem Workspace.agreeOn_remove :
    Environment.AgreeOn calls ((w.remove engine name).2.environment e) (w.environment e) := by
  refine w.agreeOn_update engine e fun r called arguments hmem => ?_
  have hne : called ≠ name := fun heq => h arguments (heq ▸ hmem)
  rw [Registry.get?_remove, Function.update_of_ne hne]

end Changes

/-- **Only the helpers that are named.** Two environments that deny the same names and have the same
helpers, or none, under the names of all calls of a template render it with the same output or
error, the same invocations and the same state at the end. So it is rendered alike before and after
a helper that none of its calls names was added, replaced or removed. -/
theorem Template.render_eq_of_agreeOn {σ : Type} (t : Template) (context : Value) (state : σ) :
    (∀ env other : Environment σ,
      (∀ name, env.denylist.denies name = other.denylist.denies name) →
      (∀ name arguments, .call name arguments ∈ t.calls →
        env.helpers.get? name = other.helpers.get? name) →
      runFrom (t.render env context) state = runFrom (t.render other context) state ∧
        runFrom (t.render env.recorded context) (state, []) =
          runFrom (t.render other.recorded context) (state, [])) ∧
    ∀ (w : Workspace σ) (engine e : Engine) (name : String),
      (∀ arguments, .call name arguments ∉ t.calls) →
      (∀ helper : Helper σ, runFrom ((w.register engine name helper).run e t context) state =
        runFrom (w.run e t context) state) ∧
      runFrom ((w.remove engine name).2.run e t context) state =
        runFrom (w.run e t context) state := by
  refine ⟨fun env other hdenies hhelpers => ?_, fun w engine e name hname =>
    ⟨fun helper => ?_, ?_⟩⟩
  · have hagree : env.AgreeOn t.calls other := ⟨hdenies, hhelpers⟩
    exact ⟨congrArg (runFrom · state) (Template.render_congr hagree context),
      congrArg (runFrom · (state, [])) (Template.render_congr hagree.recorded context)⟩
  · exact congrArg (runFrom · state)
      (Template.render_congr (w.agreeOn_register engine e hname helper) context)
  · exact congrArg (runFrom · state)
      (Template.render_congr (w.agreeOn_remove engine e hname) context)

/-- A call in the argument of a call that opens a block, and a helper that neither names. -/
theorem Template.render_eq_of_agreeOn_spare :
    let next : Helper Nat := fun _ n => (.ok (.bool (n % 2 = 0)), n + 1)
    let spare : Helper Nat := fun _ n => (.ok .null, n + 10)
    let helpers : Registry Nat := Registry.empty.register "next" next
    let w : Workspace Nat := ⟨[helpers]⟩
    let engine : Engine := .ofConfig 0 .standard
    let t : Template :=
      .ofStatements [.block (.call "next" [.call "next" []]) true [.text "a"] none]
    (∀ arguments, .call "spare" arguments ∉ t.calls) ∧
      runFrom (t.render ⟨helpers, .standard⟩ .null) 0 =
        runFrom (t.render ⟨helpers.register "spare" spare, ⟨[]⟩⟩ .null) 0 ∧
      runFrom ((w.register engine "spare" spare).run engine t .null) 0 =
        runFrom (w.run engine t .null) 0 ∧
      runFrom (t.render ⟨helpers, .standard⟩ .null) 0 = (.ok "a", 2) := by
  intro next spare helpers w engine t
  have hcalls : t.calls = [.call "next" [], .call "next" [.call "next" []]] := rfl
  have hspare : ∀ arguments, .call "spare" arguments ∉ t.calls := by
    intro arguments hmem
    rw [hcalls] at hmem
    simp at hmem
  have hdenies : ∀ name, Denylist.standard.denies name = Denylist.denies ⟨[]⟩ name := by
    intro name
    simp [Denylist.denies, Denylist.standard]
  have hhelpers : ∀ name arguments, .call name arguments ∈ t.calls →
      helpers.get? name = (helpers.register "spare" spare).get? name := by
    intro name arguments hmem
    have hne : name ≠ "spare" := fun heq => hspare arguments (heq ▸ hmem)
    rw [Registry.get?_register helpers, Function.update_of_ne hne]
  have hdepth : t.nestingDepth ≤ Template.depthLimit := by
    rw [Template.nestingDepth_eq]
    decide
  have hlaws := Template.render_eq_of_agreeOn t .null 0
  refine ⟨hspare, (hlaws.1 ⟨helpers, .standard⟩ _ hdenies hhelpers).1,
    (hlaws.2 w engine engine "spare" hspare).1 spare, ?_⟩
  rw [Template.render_eq_renderAll _ rfl hdepth]
  rfl

end Stencil
