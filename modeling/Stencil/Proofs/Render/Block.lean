import Stencil.Proofs.Render.Invocation
import Stencil.Proofs.Render.Sequence

/-!
# Plain and inverted blocks

`Statement.render_inverted`: an inverted block is the plain block with its bodies exchanged, unless
its value is an object or an array with items, over which only a plain block goes. An else body that
is empty is as good as none.

A plain block looks at the kind of its value and an inverted one at whether it is truthy, so the two
have to sort the values alike. That is said once for each kind, as an equation of `Render.block`.
-/

namespace Stencil

theorem Value.isTruthy_of_isObject {v : Value} (h : v.isObject = true) : v.isTruthy = true := by
  cases v with
  | object entries => rfl
  | _ => cases h

namespace Render

variable {σ : Type} {body elseBody : Value → Render σ String} {context v : Value}

/-! ## The values of a block -/

theorem block_of_isTruthy_eq_false (h : v.isTruthy = false) :
    block body elseBody false context v = elseBody context := by
  unfold block
  rw [if_neg Bool.false_ne_true]
  cases v with
  | array items =>
    cases items with
    | nil => rfl
    | cons item items => cases h
  | object entries => cases h
  | _ => exact if_neg (Bool.eq_false_iff.1 h)

theorem block_of_isObject (h : v.isObject = true) :
    block body elseBody false context v = body v := by
  cases v with
  | object entries => rfl
  | _ => cases h

/-- A truthy value that nothing goes over leaves the context as it is. -/
theorem block_of_isTruthy (h : v.isTruthy = true) (hobject : v.isObject = false)
    (harray : ∀ items, v ≠ .array items) :
    block body elseBody false context v = body context := by
  unfold block
  rw [if_neg Bool.false_ne_true]
  cases v with
  | array items => exact absurd rfl (harray items)
  | object entries => cases hobject
  | _ => exact if_pos h

/-- The else body does not matter to a value that is truthy. -/
theorem block_eq_of_isTruthy (h : v.isTruthy = true) (elseBody other : Value → Render σ String) :
    block body elseBody false context v = block body other false context v := by
  unfold block
  rw [if_neg Bool.false_ne_true, if_neg Bool.false_ne_true]
  cases v with
  | array items =>
    cases items with
    | nil => cases h
    | cons item items => rfl
  | object entries => rfl
  | _ => exact (if_pos h).trans (if_pos h).symm

theorem block_inverted_of_isTruthy (h : v.isTruthy = true) :
    block body elseBody true context v = elseBody context :=
  if_pos h

theorem block_inverted_of_isTruthy_eq_false (h : v.isTruthy = false) :
    block body elseBody true context v = body context :=
  if_neg (Bool.eq_false_iff.1 h)

/-- Unless the value is gone over, inverting a block exchanges its bodies. -/
theorem block_inverted_eq
    (h : v.isTruthy = false ∨ v.isObject = false ∧ ∀ items, v ≠ .array items) :
    block body elseBody true context v = block elseBody body false context v := by
  cases htruthy : v.isTruthy with
  | false => rw [block_inverted_of_isTruthy_eq_false htruthy, block_of_isTruthy_eq_false htruthy]
  | true =>
    obtain ⟨hobject, harray⟩ := h.resolve_left (by simp [htruthy])
    rw [block_inverted_of_isTruthy htruthy, block_of_isTruthy htruthy hobject harray]

end Render

open Render

/-! ## Blocks as statements -/

section Blocks

variable {σ : Type} {env : Environment σ} {context : Value} {e : Expression}
variable {body : List Statement} {elseBody : Option (List Statement)}

theorem Statement.runFrom_render_of_eval_error {negated : Bool} {err : RenderError}
    {state middle : σ} (h : runFrom (e.eval env context) state = (.error err, middle)) :
    runFrom ((Statement.block e negated body elseBody).render env context) state =
      (.error err, middle) := by
  rw [Statement.render, runFrom_bind, h]

theorem Statement.render_block_none (negated : Bool) :
    (Statement.block e negated body none).render env context =
      (Statement.block e negated body (some [])).render env context := by
  have helse : ∀ c, Statement.renderElse env none c = Statement.renderElse env (some []) c := by
    intro c
    rw [Statement.renderElse, Statement.renderElse, Statement.renderAll]
  rw [Statement.render, Statement.render, funext helse]

/-- Expressions without calls have a value and leave the state as it is. -/
theorem Expression.exists_eval_eq_pure (h : e.calls = []) (env : Environment σ) (context : Value) :
    ∃ v, e.eval env context = pure v := by
  cases e with
  | literal value => exact ⟨.string value, by rw [Expression.eval]⟩
  | path segments => exact ⟨env.denylist.resolve context segments, by rw [Expression.eval]⟩
  | call name arguments => simp [Expression.calls] at h

/-- Two blocks of one expression, the second one inverted, are one block with an else body. -/
theorem Statement.renderAll_block_inverted (h : e.calls = []) (other : List Statement) :
    Statement.renderAll env [.block e false body none, .block e true other none] context =
      Statement.renderAll env [.block e false body (some other)] context := by
  obtain ⟨v, hv⟩ := Expression.exists_eval_eq_pure h env context
  have hnone : ∀ c, Statement.renderElse env none c = pure "" := fun c => by
    rw [Statement.renderElse]
  rw [Statement.renderAll_cons, Statement.renderAll_singleton, Statement.renderAll_singleton]
  simp only [Statement.render, hv, pure_bind, hnone]
  cases htruthy : v.isTruthy with
  | false =>
    rw [block_of_isTruthy_eq_false htruthy, block_of_isTruthy_eq_false htruthy,
      block_inverted_of_isTruthy_eq_false htruthy, empty_followedBy, Statement.renderElse]
  | true =>
    rw [block_inverted_of_isTruthy htruthy, followedBy_empty]
    exact block_eq_of_isTruthy htruthy _ _

/-- With a log, an expression ends as it does without one. -/
theorem Expression.exists_runFrom_recorded (e : Expression) (env : Environment σ) (context : Value)
    (state : σ) : ∃ log, runFrom (e.eval env.recorded context) (state, []) =
      ((runFrom (e.eval env context) state).1, (runFrom (e.eval env context) state).2, log) := by
  obtain ⟨log, hrun, -⟩ := e.traces_eval env context state []
  exact ⟨log, hrun⟩

theorem Statement.runFrom_render_inverted {v : Value} {state middle : σ}
    (h : runFrom (e.eval env context) state = (.ok v, middle)) (htruthy : v.isTruthy = true) :
    runFrom ((Statement.block e true body elseBody).render env context) state =
      runFrom (Statement.renderElse env elseBody context) middle := by
  rw [Statement.runFrom_render_of_eval h, block_inverted_of_isTruthy htruthy]

theorem Statement.runFrom_render_inverted_eq {v : Value} {state middle : σ}
    (h : runFrom (e.eval env context) state = (.ok v, middle))
    (hkind : v.isTruthy = false ∨ v.isObject = false ∧ ∀ items, v ≠ .array items)
    (other : List Statement) :
    runFrom ((Statement.block e true body (some other)).render env context) state =
      runFrom ((Statement.block e false other (some body)).render env context) state := by
  rw [Statement.runFrom_render_of_eval h, Statement.runFrom_render_of_eval h,
    block_inverted_eq hkind]
  rfl

end Blocks

/-- Rendered from the state, both lists of statements end with the same output or error, leave the
same state behind and invoke the same helpers with the same arguments in the same order. -/
def Statement.Alike {σ : Type} (env : Environment σ) (context : Value) (state : σ)
    (ss ss' : List Statement) : Prop :=
  runFrom (Statement.renderAll env ss context) state =
      runFrom (Statement.renderAll env ss' context) state ∧
    runFrom (Statement.renderAll env.recorded ss context) (state, []) =
      runFrom (Statement.renderAll env.recorded ss' context) (state, [])

/-- Statements that are the same computation whatever the helpers are. -/
theorem Statement.alike_of_renderAll_eq {σ : Type} {env : Environment σ} {context : Value}
    {ss ss' : List Statement} (state : σ)
    (h : ∀ (τ : Type) (env : Environment τ), Statement.renderAll env ss context =
      Statement.renderAll env ss' context) : Statement.Alike env context state ss ss' := by
  refine ⟨?_, ?_⟩
  · rw [h σ env]
  · rw [h _ env.recorded]

/-- **Duality.** If the value of its expression is not truthy, or truthy and neither an object nor
an array, an inverted block renders as the plain block with the bodies exchanged does. If it is an
object or an array with items, the inverted block renders its else body once, where it stands. If
the expression fails, both blocks fail with its error. An else body that is not there is as good as
an empty one. For an expression without calls, a plain block and an inverted one behind it render
what one block with both bodies renders. -/
theorem Statement.render_inverted {σ : Type} (env : Environment σ) (context : Value)
    (e : Expression) (body other : List Statement) (state : σ) :
    (∃ log, runFrom (e.eval env.recorded context) (state, []) =
        ((runFrom (e.eval env context) state).1, (runFrom (e.eval env context) state).2, log) ∧
      match runFrom (e.eval env context) state with
      | (.ok v, middle) =>
        (v.isTruthy = false ∨ v.isObject = false ∧ (∀ items, v ≠ .array items) →
          Statement.Alike env context state [.block e true body (some other)]
            [.block e false other (some body)]) ∧
        (v.isObject = true ∨ (∃ items, items ≠ [] ∧ v = .array items) →
          runFrom ((Statement.block e true body (some other)).render env context) state =
              runFrom (Statement.renderAll env other context) middle ∧
            runFrom ((Statement.block e true body (some other)).render env.recorded context)
                (state, []) =
              runFrom (Statement.renderAll env.recorded other context) (middle, log))
      | (.error err, middle) =>
        ∀ s : Statement,
          s = .block e true body (some other) ∨ s = .block e false other (some body) →
          runFrom (s.render env context) state = (.error err, middle) ∧
            runFrom (s.render env.recorded context) (state, []) = (.error err, middle, log)) ∧
    (∀ negated : Bool, Statement.Alike env context state [.block e negated body none]
      [.block e negated body (some [])]) ∧
    (e.calls = [] → Statement.Alike env context state
      [.block e false body none, .block e true other none]
      [.block e false body (some other)]) := by
  refine ⟨?_, fun negated => Statement.alike_of_renderAll_eq state fun τ env => ?_,
    fun hcalls => Statement.alike_of_renderAll_eq state fun τ env => ?_⟩
  · obtain ⟨log, hlog⟩ := e.exists_runFrom_recorded env context state
    refine ⟨log, hlog, ?_⟩
    generalize hrun : runFrom (e.eval env context) state = run at hlog ⊢
    obtain ⟨result, middle⟩ := run
    cases result with
    | error err =>
      rintro s (rfl | rfl) <;>
        exact ⟨Statement.runFrom_render_of_eval_error hrun,
          Statement.runFrom_render_of_eval_error hlog⟩
    | ok v =>
      refine ⟨fun hkind => ?_, fun hkind => ?_⟩
      · unfold Statement.Alike
        simp only [Statement.renderAll_singleton]
        exact ⟨Statement.runFrom_render_inverted_eq hrun hkind other,
          Statement.runFrom_render_inverted_eq hlog hkind other⟩
      · have htruthy : v.isTruthy = true := by
          obtain hobject | ⟨items, hitems, rfl⟩ := hkind
          · exact Value.isTruthy_of_isObject hobject
          · simpa [Value.isTruthy] using hitems
        exact ⟨Statement.runFrom_render_inverted hrun htruthy,
          Statement.runFrom_render_inverted hlog htruthy⟩
  · rw [Statement.renderAll_singleton, Statement.renderAll_singleton, Statement.render_block_none]
  · exact Statement.renderAll_block_inverted hcalls other

/-- A helper that answers with nothing at first and with items from then on. Over the items the
inverted block renders its else body once. -/
theorem Statement.render_inverted_counting :
    let env : Environment Nat :=
      ⟨Registry.empty.register "next" fun _ n =>
        (.ok (if n = 0 then .null else .array [.null, .null]), n + 1), .standard⟩
    let e : Expression := .call "next" []
    let body : List Statement := [.text "a"]
    let other : List Statement := [.text "b", .interpolation e]
    Statement.Alike env .undefined 0 [.block e true body (some other)]
        [.block e false other (some body)] ∧
      runFrom ((Statement.block e true body (some other)).render env .undefined) 1 =
        runFrom (Statement.renderAll env other .undefined) 2 ∧
      (Expression.path ["x"]).calls = [] ∧
      Statement.Alike env .undefined 0
        [.block (.path ["x"]) false body none, .block (.path ["x"]) true other none]
        [.block (.path ["x"]) false body (some other)] := by
  intro env e body other
  obtain ⟨_, -, hfirst⟩ := (Statement.render_inverted env .undefined e body other 0).1
  obtain ⟨_, -, hlater⟩ := (Statement.render_inverted env .undefined e body other 1).1
  have hitems : ∃ items, items ≠ [] ∧ Value.array [.null, .null] = .array items :=
    ⟨[.null, .null], by simp, rfl⟩
  exact ⟨hfirst.1 (.inl rfl), (hlater.2 (.inr hitems)).1, rfl,
    (Statement.render_inverted env .undefined (.path ["x"]) body other 0).2.2 rfl⟩

end Stencil
