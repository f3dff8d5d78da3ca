import Stencil.Proofs.Tree.Calls
import Stencil.Render

/-!
# Runs of rendering

A computation is run from a state of the helpers and leaves another one behind. `FailsOnly P` holds
of the computations that fail with no errors but those of `P`; steps that do so make up computations
that do so. Rendering statements fails with errors of calls only (`failsOnly_renderAll`).
-/

namespace Stencil

namespace Render

variable {σ α β : Type}

def runFrom (x : Render σ α) (state : σ) : Except RenderError α × σ :=
  x.run.run state

@[simp] theorem runFrom_pure (a : α) (state : σ) :
    runFrom (pure a : Render σ α) state = (.ok a, state) :=
  rfl

@[simp] theorem runFrom_throw (e : RenderError) (state : σ) :
    runFrom (throw e : Render σ α) state = (.error e, state) :=
  rfl

/-- The second step goes on in the state that the first one left. -/
theorem runFrom_bind (x : Render σ α) (f : α → Render σ β) (state : σ) :
    runFrom (x >>= f) state =
      match runFrom x state with
      | (.ok a, middle) => runFrom (f a) middle
      | (.error e, middle) => (.error e, middle) := by
  show (ExceptT.bindCont f (runFrom x state).1) (runFrom x state).2 = _
  obtain ⟨result, middle⟩ := runFrom x state
  cases result <;> rfl

@[simp] theorem runFrom_modifyGet (f : σ → α × σ) (state : σ) :
    runFrom (modifyGet f : Render σ α) state = (.ok (f state).1, (f state).2) :=
  rfl

/-! ## Errors -/

/-- Errors that the computation ends with are in `P`, whatever state it begins with. -/
def FailsOnly (P : RenderError → Prop) (x : Render σ α) : Prop :=
  ∀ state e, (runFrom x state).1 = .error e → P e

section FailsOnly

variable {P : RenderError → Prop}

theorem FailsOnly.pure (a : α) : FailsOnly P (Pure.pure a : Render σ α) := by
  intro state e h
  rw [runFrom_pure] at h
  cases h

theorem FailsOnly.throw {e : RenderError} (h : P e) :
    FailsOnly P (MonadExcept.throw e : Render σ α) := by
  rintro state e' h'
  rw [runFrom_throw] at h'
  obtain rfl := Except.error.inj h'
  exact h

theorem FailsOnly.modifyGet (f : σ → α × σ) : FailsOnly P (modifyGet f : Render σ α) := by
  intro state e h
  rw [runFrom_modifyGet] at h
  cases h

theorem FailsOnly.bind {x : Render σ α} {f : α → Render σ β} (hx : FailsOnly P x)
    (hf : ∀ a, FailsOnly P (f a)) : FailsOnly P (x >>= f) := by
  intro state e h
  rw [runFrom_bind] at h
  have hx := hx state
  generalize runFrom x state = run at h hx
  obtain ⟨result, middle⟩ := run
  cases result with
  | ok a => exact hf a middle e h
  | error e' =>
    obtain rfl := Except.error.inj h
    exact hx e' rfl

end FailsOnly

end Render

/-- The errors that calls end with. -/
inductive RenderError.OfCall : RenderError → Prop
  | unknown (name : String) : OfCall (.unknownHelper name)
  | failed (name : String) (error : HelperError) : OfCall (.helperFailed name error)

open Render RenderError

section Errors

variable {σ : Type} (env : Environment σ)

theorem Environment.failsOnly_invoke (name : String) (arguments : List Value) :
    FailsOnly OfCall (env.invoke name arguments) := by
  unfold Environment.invoke
  cases env.helpers.get? name with
  | none => exact .throw (.unknown name)
  | some helper =>
    refine .bind (.modifyGet _) fun result => ?_
    cases result with
    | ok v => exact .pure v
    | error e => exact .throw (.failed name e)

mutual

theorem Expression.failsOnly_eval (context : Value) :
    ∀ e : Expression, FailsOnly OfCall (e.eval env context)
  | .literal _ => .pure _
  | .path _ => .pure _
  | .call name arguments =>
    .bind (Expression.failsOnly_evalAll context arguments) fun values =>
      env.failsOnly_invoke name values

theorem Expression.failsOnly_evalAll (context : Value) :
    ∀ es : List Expression, FailsOnly OfCall (Expression.evalAll env context es)
  | [] => .pure _
  | e :: es =>
    .bind (Expression.failsOnly_eval context e) fun _ =>
      .bind (Expression.failsOnly_evalAll context es) fun _ => .pure _

end

theorem Render.failsOnly_items {P : RenderError → Prop} {body : Value → Render σ String}
    (h : ∀ c, FailsOnly P (body c)) (context : Value) (vs : List Value) :
    FailsOnly P (Render.items body context vs) := by
  induction vs with
  | nil => exact .pure _
  | cons v vs ih => exact .bind (h _) fun _ => .bind ih fun _ => .pure _

/-- A block renders one of its bodies, or its body for some items, whatever its value is. -/
theorem Render.failsOnly_block {P : RenderError → Prop} {body elseBody : Value → Render σ String}
    (h : ∀ c, FailsOnly P (body c)) (helse : ∀ c, FailsOnly P (elseBody c)) (negated : Bool)
    (context v : Value) : FailsOnly P (Render.block body elseBody negated context v) := by
  unfold Render.block
  split
  · split
    · exact helse context
    · exact h context
  · split
    · exact helse context
    · exact failsOnly_items h context _
    · exact h _
    · split
      · exact h context
      · exact helse context

section Statements

variable {P : RenderError → Prop}

mutual

/-- A statement fails as its expressions do. -/
theorem Statement.failsOnly_render_of_eval :
    ∀ s : Statement, (∀ e ∈ s.expressions, ∀ c, FailsOnly P (e.eval env c)) →
      ∀ context : Value, FailsOnly P (s.render env context)
  | .text _, _, _ => .pure _
  | .comment _, _, _ => .pure _
  | .interpolation e, h, context => .bind (h e (List.mem_singleton_self e) context) fun _ => .pure _
  | .block e negated body elseBody, h, context => by
    rw [Statement.expressions, List.forall_mem_cons, List.forall_mem_append] at h
    obtain ⟨he, hbody, helse⟩ := h
    exact .bind (he context) fun v =>
      failsOnly_block (Statement.failsOnly_renderAll_of_eval body hbody)
        (Statement.failsOnly_renderElse_of_eval elseBody helse) negated context v
  | .unknown, _, _ => .pure _

theorem Statement.failsOnly_renderAll_of_eval :
    ∀ ss : List Statement,
      (∀ e ∈ Statement.allExpressions ss, ∀ c, FailsOnly P (e.eval env c)) →
        ∀ context : Value, FailsOnly P (Statement.renderAll env ss context)
  | [], _, _ => .pure _
  | s :: ss, h, context => by
    rw [Statement.allExpressions, List.forall_mem_append] at h
    exact .bind (Statement.failsOnly_render_of_eval s h.1 context) fun _ =>
      .bind (Statement.failsOnly_renderAll_of_eval ss h.2 context) fun _ => .pure _

theorem Statement.failsOnly_renderElse_of_eval :
    ∀ elseBody : Option (List Statement),
      (∀ e ∈ Statement.elseExpressions elseBody, ∀ c, FailsOnly P (e.eval env c)) →
        ∀ context : Value, FailsOnly P (Statement.renderElse env elseBody context)
  | none, _, _ => .pure _
  | some ss, h, context => Statement.failsOnly_renderAll_of_eval ss h context

end

end Statements

theorem Statement.failsOnly_renderAll (ss : List Statement) (context : Value) :
    FailsOnly OfCall (Statement.renderAll env ss context) :=
  Statement.failsOnly_renderAll_of_eval env ss (fun e _ c => e.failsOnly_eval env c) context

end Errors

/-! ## Templates -/

section Templates

variable {σ : Type} (env : Environment σ) {t : Template}

/-- A template whose version and depth are in bounds is rendered as its statements are. -/
theorem Template.render_eq_renderAll (hversion : t.version = Template.currentVersion)
    (hdepth : t.nestingDepth ≤ Template.depthLimit) (context : Value) :
    t.render env context = Statement.renderAll env t.statements context := by
  unfold Template.render
  rw [if_neg (by rw [hversion]; simp), if_neg (by omega)]

end Templates

end Stencil
