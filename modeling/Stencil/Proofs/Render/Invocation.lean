import Stencil.Proofs.Entries
import Stencil.Proofs.Render.Runs
import Stencil.Proofs.Tree.Depth

/-!
# Invocations of helpers

`Environment.recorded` has helpers that do what they did and also note, in a log behind the state,
what they were called with and what they gave. `Traces P x y` says that `y`, run with a log, is `x`
run without one, and that what the log gains and the result of the run are related by `P`. So does
what is made up of such steps.

`Expression.eval_invokes`: evaluating an expression invokes the helpers of its calls in the order in
which the calls end, each with the values of its arguments, and stops with the first call that has
no helper or whose helper fails. So an error of a rendering names a call of the tree.
-/

namespace Stencil

/-! ## Recording -/

/-- A call of a helper, and what came of it. -/
structure Invocation where
  name : String
  arguments : List Value
  result : Except HelperError Value

section Recording

variable {σ : Type}

def Helper.recorded (name : String) (helper : Helper σ) : Helper (σ × List Invocation) :=
  fun arguments s =>
    let (result, state) := helper arguments s.1
    (result, state, s.2 ++ [⟨name, arguments, result⟩])

def Registry.recorded (r : Registry σ) : Registry (σ × List Invocation) :=
  ⟨r.entries.map fun e => (e.1, Helper.recorded e.1 e.2), List.pairwise_map.2 r.sorted⟩

def Environment.recorded (env : Environment σ) : Environment (σ × List Invocation) :=
  ⟨env.helpers.recorded, env.denylist⟩

theorem Registry.get?_recorded (r : Registry σ) (name : String) :
    r.recorded.get? name = (r.get? name).map (Helper.recorded name) :=
  Entries.lookup_map Helper.recorded name r.entries

end Recording

namespace Render

variable {σ α β : Type}

/-- With a log, `y` runs as `x` does without, and `P` holds of what the log gains and of the
result. -/
def Traces (P : List Invocation → Except RenderError α → Prop) (x : Render σ α)
    (y : Render (σ × List Invocation) α) : Prop :=
  ∀ state log, ∃ more,
    runFrom y (state, log) = ((runFrom x state).1, (runFrom x state).2, log ++ more) ∧
      P more (runFrom x state).1

theorem Traces.imp {P Q : List Invocation → Except RenderError α → Prop} {x : Render σ α}
    {y : Render (σ × List Invocation) α} (h : Traces P x y) (himp : ∀ log r, P log r → Q log r) :
    Traces Q x y := by
  intro state log
  obtain ⟨more, hrun, hP⟩ := h state log
  exact ⟨more, hrun, himp _ _ hP⟩

theorem Traces.pure {P : List Invocation → Except RenderError α → Prop} {a : α}
    (h : P [] (.ok a)) : Traces P (Pure.pure a : Render σ α) (Pure.pure a) := by
  intro state log
  refine ⟨[], ?_, h⟩
  rw [runFrom_pure, runFrom_pure, List.append_nil]

theorem Traces.throw {P : List Invocation → Except RenderError α → Prop} {e : RenderError}
    (h : P [] (.error e)) :
    Traces P (MonadExcept.throw e : Render σ α) (MonadExcept.throw e) := by
  intro state log
  refine ⟨[], ?_, h⟩
  rw [runFrom_throw, runFrom_throw, List.append_nil]

/-- Two steps log one behind the other, and a step that fails is the last one. -/
theorem Traces.bind {P : List Invocation → Except RenderError α → Prop}
    {Q : List Invocation → Except RenderError β → Prop} {x : Render σ α}
    {y : Render (σ × List Invocation) α} {f : α → Render σ β}
    {g : α → Render (σ × List Invocation) β} (hx : Traces P x y)
    (hf : ∀ first a, P first (.ok a) → Traces (fun log r => Q (first ++ log) r) (f a) (g a))
    (hstop : ∀ first e, P first (.error e) → Q first (.error e)) :
    Traces Q (x >>= f) (y >>= g) := by
  intro state log
  obtain ⟨first, hrun, hP⟩ := hx state log
  rw [runFrom_bind, runFrom_bind, hrun]
  generalize runFrom x state = run at hP ⊢
  obtain ⟨result, middle⟩ := run
  cases result with
  | error e => exact ⟨first, rfl, hstop first e hP⟩
  | ok a =>
    obtain ⟨more, hmore, hQ⟩ := hf first a hP middle (log ++ first)
    refine ⟨first ++ more, ?_, hQ⟩
    rw [← List.append_assoc]
    exact hmore

end Render

open Render

/-! ## What an invocation is made with -/

section Calls

variable {σ : Type} (env : Environment σ) (context : Value)

mutual

/-- `e.Yields env context log v`: the value of `e` is `v` if `log` holds the invocations of its
calls. -/
inductive Expression.Yields : Expression → List Invocation → Value → Prop
  | literal (value : String) : Expression.Yields (.literal value) [] (.string value)
  | path (segments : List String) :
    Expression.Yields (.path segments) [] (env.denylist.resolve context segments)
  | call {name : String} {arguments : List Expression} {inner : List Invocation}
      {values : List Value} {v : Value} (hknown : (env.helpers.get? name).isSome = true)
      (harguments : Expression.AllYield arguments inner values) :
    Expression.Yields (.call name arguments) (inner ++ [⟨name, values, .ok v⟩]) v

/-- The expressions have these values, in their order. -/
inductive Expression.AllYield : List Expression → List Invocation → List Value → Prop
  | nil : Expression.AllYield [] [] []
  | cons {e : Expression} {es : List Expression} {first rest : List Invocation} {v : Value}
      {vs : List Value} (he : Expression.Yields e first v)
      (hes : Expression.AllYield es rest vs) :
    Expression.AllYield (e :: es) (first ++ rest) (v :: vs)

end

/-! ## One invocation for each call -/

/-- A call is due with these values if it has a helper and the last of the invocations made so far
give the values to its arguments. -/
def Due (name : String) (arguments : List Expression) (done : List Invocation)
    (values : List Value) : Prop :=
  (env.helpers.get? name).isSome = true ∧
    ∃ inner, inner <:+ done ∧ Expression.AllYield env context arguments inner values

/-- The log holds one invocation for each of the calls, in their order, and none that failed. -/
inductive Performs : List Expression → List Invocation → Prop
  | nil : Performs [] []
  | concat {calls : List Expression} {done : List Invocation} {name : String}
      {arguments : List Expression} {values : List Value} (v : Value)
      (hcalls : Performs calls done) (hdue : Due env context name arguments done values) :
    Performs (calls ++ [.call name arguments]) (done ++ [⟨name, values, .ok v⟩])

/-- The calls were performed up to one that ends them with this error. -/
def StopsWith (calls : List Expression) (log : List Invocation) : RenderError → Prop
  | .unknownHelper name =>
    ∃ before arguments after, calls = before ++ .call name arguments :: after ∧
      env.helpers.get? name = none ∧ Performs env context before log
  | .helperFailed name error =>
    ∃ before arguments after done values, calls = before ++ .call name arguments :: after ∧
      Performs env context before done ∧ Due env context name arguments done values ∧
      log = done ++ [⟨name, values, .error error⟩]
  | _ => False

variable {env context}

theorem Due.behind {name : String} {arguments : List Expression} {done : List Invocation}
    {values : List Value} (h : Due env context name arguments done values)
    (earlier : List Invocation) : Due env context name arguments (earlier ++ done) values := by
  obtain ⟨hknown, inner, hsuffix, hyield⟩ := h
  exact ⟨hknown, inner, hsuffix.trans (List.suffix_append earlier done), hyield⟩

theorem Performs.append {calls calls' : List Expression} {log log' : List Invocation}
    (h : Performs env context calls log) (h' : Performs env context calls' log') :
    Performs env context (calls ++ calls') (log ++ log') := by
  induction h' with
  | nil => rwa [List.append_nil, List.append_nil]
  | concat v _ hdue ih =>
    rw [← List.append_assoc, ← List.append_assoc]
    exact .concat v ih (hdue.behind log)

mutual

theorem Expression.Yields.performs : ∀ {e : Expression} {log : List Invocation} {v : Value},
    e.Yields env context log v → Performs env context e.calls log
  | _, _, _, .literal _ => .nil
  | _, _, _, .path _ => .nil
  | _, _, _, .call hknown harguments =>
    .concat _ harguments.performs ⟨hknown, _, List.suffix_refl _, harguments⟩

theorem Expression.AllYield.performs :
    ∀ {es : List Expression} {log : List Invocation} {vs : List Value},
      Expression.AllYield env context es log vs →
        Performs env context (Expression.allCalls es) log
  | _, _, _, .nil => .nil
  | _, _, _, .cons he hes => he.performs.append hes.performs

end

theorem StopsWith.before {calls : List Expression} {log : List Invocation} {e : RenderError}
    (h : StopsWith env context calls log e) (more : List Expression) :
    StopsWith env context (calls ++ more) log e := by
  cases e with
  | unknownHelper name =>
    obtain ⟨before, arguments, after, rfl, hrest⟩ := h
    refine ⟨before, arguments, after ++ more, ?_, hrest⟩
    rw [List.append_assoc, List.cons_append]
  | helperFailed name error =>
    obtain ⟨before, arguments, after, done, values, rfl, hrest⟩ := h
    refine ⟨before, arguments, after ++ more, done, values, ?_, hrest⟩
    rw [List.append_assoc, List.cons_append]
  | _ => exact h

theorem StopsWith.behind {calls more : List Expression} {log done : List Invocation}
    {e : RenderError} (h : StopsWith env context more log e)
    (hcalls : Performs env context calls done) :
    StopsWith env context (calls ++ more) (done ++ log) e := by
  cases e with
  | unknownHelper name =>
    obtain ⟨before, arguments, after, rfl, hnone, hlog⟩ := h
    exact ⟨calls ++ before, arguments, after, (List.append_assoc ..).symm, hnone,
      hcalls.append hlog⟩
  | helperFailed name error =>
    obtain ⟨before, arguments, after, last, values, rfl, hlog, hdue, rfl⟩ := h
    exact ⟨calls ++ before, arguments, after, done ++ last, values,
      (List.append_assoc ..).symm, hcalls.append hlog, hdue.behind done,
      (List.append_assoc ..).symm⟩
  | _ => exact h

/-! ## Evaluation -/

variable (env context)

/-- What one invocation logs and ends with. -/
inductive Invokes (name : String) (values : List Value) :
    List Invocation → Except RenderError Value → Prop
  | returned (hknown : (env.helpers.get? name).isSome = true) (v : Value) :
    Invokes name values [⟨name, values, .ok v⟩] (.ok v)
  | failed (hknown : (env.helpers.get? name).isSome = true) (error : HelperError) :
    Invokes name values [⟨name, values, .error error⟩] (.error (.helperFailed name error))
  | unknown (hnone : env.helpers.get? name = none) :
    Invokes name values [] (.error (.unknownHelper name))

theorem Environment.traces_invoke (name : String) (values : List Value) :
    Traces (Invokes env name values) (env.invoke name values)
      (env.recorded.invoke name values) := by
  have hget : env.recorded.helpers.get? name =
      (env.helpers.get? name).map (Helper.recorded name) := env.helpers.get?_recorded name
  unfold Environment.invoke
  rw [hget]
  cases hhelper : env.helpers.get? name with
  | none => exact .throw (.unknown hhelper)
  | some helper =>
    have hknown : (env.helpers.get? name).isSome = true := by rw [hhelper, Option.isSome_some]
    intro state log
    refine ⟨[⟨name, values, (helper values state).1⟩], ?_, ?_⟩ <;>
      simp only [Option.map_some, runFrom_bind, runFrom_modifyGet, Helper.recorded]
    · cases (helper values state).1 <;> rfl
    · cases (helper values state).1 with
      | ok v => exact .returned hknown v
      | error error => exact .failed hknown error

/-- The calls were performed and made the result, or they were stopped. -/
def Outcome {α : Type} (yields : List Invocation → α → Prop) (calls : List Expression)
    (log : List Invocation) : Except RenderError α → Prop
  | .ok a => yields log a
  | .error e => StopsWith env context calls log e

mutual

theorem Expression.traces_eval : ∀ e : Expression,
    Traces (Outcome env context (e.Yields env context) e.calls) (e.eval env context)
      (e.eval env.recorded context)
  | .literal value => by
    rw [Expression.eval, Expression.eval]
    exact .pure (.literal value)
  | .path segments => by
    rw [Expression.eval, Expression.eval]
    exact .pure (.path segments)
  | .call name arguments => by
    rw [Expression.eval, Expression.eval]
    refine .bind (Expression.traces_evalAll arguments) (fun inner values hinner => ?_)
      fun log e hstop => StopsWith.before hstop _
    refine (env.traces_invoke name values).imp ?_
    rintro log r (⟨hknown, v⟩ | ⟨hknown, error⟩ | hnone)
    · exact .call hknown hinner
    · exact ⟨_, arguments, [], inner, values, rfl, hinner.performs,
        ⟨hknown, inner, List.suffix_refl inner, hinner⟩, rfl⟩
    · rw [List.append_nil]
      exact ⟨_, arguments, [], rfl, hnone, hinner.performs⟩

theorem Expression.traces_evalAll : ∀ es : List Expression,
    Traces (Outcome env context (Expression.AllYield env context es) (Expression.allCalls es))
      (Expression.evalAll env context es) (Expression.evalAll env.recorded context es)
  | [] => by
    rw [Expression.evalAll, Expression.evalAll]
    exact .pure .nil
  | e :: es => by
    rw [Expression.evalAll, Expression.evalAll]
    refine .bind (Expression.traces_eval e) (fun first v hfirst => ?_)
      fun log e hstop => StopsWith.before hstop _
    refine .bind (Expression.traces_evalAll es) (fun rest vs hrest => ?_)
      fun log e hstop => StopsWith.behind hstop hfirst.performs
    refine .pure ?_
    rw [List.append_nil]
    exact .cons hfirst hrest

end

end Calls

/-! ## Errors -/

/-- The error is about one of the calls. -/
def RenderError.Names (calls : List Expression) (e : RenderError) : Prop :=
  ∃ name arguments, .call name arguments ∈ calls ∧
    (e = .unknownHelper name ∨ ∃ error, e = .helperFailed name error)

section Errors

variable {σ : Type} {env : Environment σ} {context : Value}

theorem StopsWith.names {calls : List Expression} {log : List Invocation} {e : RenderError}
    (h : StopsWith env context calls log e) : e.Names calls := by
  cases e with
  | unknownHelper name =>
    obtain ⟨before, arguments, after, rfl, -⟩ := h
    exact ⟨name, arguments, List.mem_append_right before List.mem_cons_self, .inl rfl⟩
  | helperFailed name error =>
    obtain ⟨before, arguments, after, -, -, rfl, -⟩ := h
    exact ⟨name, arguments, List.mem_append_right before List.mem_cons_self, .inr ⟨error, rfl⟩⟩
  | _ => exact h.elim

theorem Expression.failsOnly_names {calls : List Expression} {e : Expression}
    (h : ∀ call ∈ e.calls, call ∈ calls) :
    FailsOnly (RenderError.Names calls) (e.eval env context) := by
  intro state err herr
  obtain ⟨log, -, houtcome⟩ := e.traces_eval env context state []
  rw [herr] at houtcome
  obtain ⟨name, arguments, hmem, hname⟩ := houtcome.names
  exact ⟨name, arguments, h _ hmem, hname⟩

theorem Template.failsOnly_names {t : Template} (hversion : t.version = Template.currentVersion)
    (hdepth : t.nestingDepth ≤ Template.depthLimit) :
    FailsOnly (RenderError.Names t.calls) (t.render env context) := by
  rw [Template.render_eq_renderAll env hversion hdepth]
  refine Statement.failsOnly_renderAll_of_eval env t.statements (fun e he c => ?_) context
  exact Expression.failsOnly_names fun call hcall => List.mem_flatMap.2 ⟨e, he, hcall⟩

end Errors

/-- **Invocations in order.** Evaluating an expression invokes helpers for its calls in the order in
which they end, once for each and with the values of its arguments: for all of them if there is a
value, and else up to the first call without a helper or the first whose helper fails, which the
error names. An error of rendering a template of the right version and depth names a call of its
tree, and without calls there is none. -/
theorem Expression.eval_invokes {σ : Type} (env : Environment σ) (context : Value) (state : σ) :
    (∀ e : Expression, ∃ log,
      runFrom (e.eval env.recorded context) (state, []) =
        ((runFrom (e.eval env context) state).1, (runFrom (e.eval env context) state).2, log) ∧
      match (runFrom (e.eval env context) state).1 with
      | .ok v => Performs env context e.calls log ∧ e.Yields env context log v
      | .error err => StopsWith env context e.calls log err) ∧
    ∀ t : Template, t.version = Template.currentVersion →
      t.nestingDepth ≤ Template.depthLimit →
      (∀ err, (runFrom (t.render env context) state).1 = .error err → err.Names t.calls) ∧
      (t.calls = [] → ∃ output, (runFrom (t.render env context) state).1 = .ok output) := by
  refine ⟨fun e => ?_, fun t hversion hdepth => ?_⟩
  · obtain ⟨log, hrun, houtcome⟩ := e.traces_eval env context state []
    refine ⟨log, hrun, ?_⟩
    generalize (runFrom (e.eval env context) state).1 = result at houtcome ⊢
    cases result with
    | ok v => exact ⟨Expression.Yields.performs houtcome, houtcome⟩
    | error err => exact houtcome
  · have honly : FailsOnly (RenderError.Names t.calls) (t.render env context) :=
      Template.failsOnly_names hversion hdepth
    refine ⟨honly state, fun hcalls => ?_⟩
    cases hresult : (runFrom (t.render env context) state).1 with
    | ok output => exact ⟨output, rfl⟩
    | error err =>
      obtain ⟨name, arguments, hmem, -⟩ := honly state err hresult
      rw [hcalls] at hmem
      cases hmem

/-- The second argument fails, so neither the third nor the outer call, which has no helper, is
reached. -/
theorem Expression.eval_invokes_failing :
    let env : Environment Nat :=
      ⟨(Registry.empty.register "next" fun _ n => (.ok .null, n + 1)).register "fail"
        fun _ n => (.error (.message "boom"), n), .standard⟩
    let e : Expression := .call "nope" [.call "next" [.path ["a"]],
      .call "fail" [.call "next" [], .literal "x"], .call "next" []]
    let t : Template := .ofStatements [.interpolation e]
    runFrom (e.eval env.recorded .undefined) (0, []) =
        (.error (.helperFailed "fail" (.message "boom")), 2,
          [⟨"next", [.undefined], .ok .null⟩, ⟨"next", [], .ok .null⟩,
            ⟨"fail", [.null, .string "x"], .error (.message "boom")⟩]) ∧
      t.version = Template.currentVersion ∧ t.nestingDepth ≤ Template.depthLimit ∧
      (RenderError.helperFailed "fail" (.message "boom")).Names t.calls := by
  intro env e t
  have hdepth : t.nestingDepth ≤ Template.depthLimit := by
    rw [Template.nestingDepth_eq]
    decide
  have herror : (runFrom (t.render env .undefined) 0).1 =
      .error (.helperFailed "fail" (.message "boom")) := by
    rw [Template.render_eq_renderAll env rfl hdepth]
    rfl
  exact ⟨rfl, rfl, hdepth, ((Expression.eval_invokes env .undefined 0).2 t rfl hdepth).1 _ herror⟩

end Stencil
