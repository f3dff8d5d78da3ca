import Stencil.Proofs.Render.Runs
import Stencil.Proofs.Tree.Joining

/-!
# Rendering in sequence

`Statement.render_inTurn`: statements render one part after the other, and so does a block over the
items of an array. Where no item is an object, the block renders what its body does that is written
down once for every item.

Both laws speak of what is left behind, too: a part begins in the state of the helpers that the part
before it left, and nothing runs behind an error.
-/

namespace Stencil

/-! ## One rendering after the other -/

namespace Render

variable {σ : Type}

/-- The output of both, one behind the other, or the first of their errors. -/
def followedBy (x y : Render σ String) : Render σ String := do
  let first ← x
  let rest ← y
  return first ++ rest

/-- What one run gives and then another one: both outputs, or the first error and the state that it
left. -/
def inTurn (first : Except RenderError String × σ)
    (second : σ → Except RenderError String × σ) : Except RenderError String × σ :=
  match first with
  | (.ok output, middle) =>
    match second middle with
    | (.ok more, last) => (.ok (output ++ more), last)
    | (.error e, last) => (.error e, last)
  | (.error e, middle) => (.error e, middle)

theorem runFrom_followedBy (x y : Render σ String) (state : σ) :
    runFrom (followedBy x y) state = inTurn (runFrom x state) (runFrom y) := by
  unfold followedBy inTurn
  rw [runFrom_bind]
  generalize runFrom x state = run
  obtain ⟨result, middle⟩ := run
  cases result with
  | error e => rfl
  | ok first =>
    simp only [runFrom_bind, runFrom_pure]
    generalize runFrom y middle = run
    obtain ⟨result, last⟩ := run
    cases result <;> rfl

theorem followedBy_assoc (x y z : Render σ String) :
    followedBy (followedBy x y) z = followedBy x (followedBy y z) := by
  unfold followedBy
  simp only [bind_assoc, pure_bind, String.append_assoc]

/-- A text is in front of what comes first. -/
theorem pure_followedBy (s t : String) (y : Render σ String) :
    followedBy (pure (s ++ t)) y = followedBy (pure s) (followedBy (pure t) y) := by
  unfold followedBy
  simp only [bind_assoc, pure_bind, String.append_assoc]

theorem empty_followedBy (y : Render σ String) : followedBy (pure "") y = y := by
  unfold followedBy
  simp only [pure_bind, String.empty_append, bind_pure]

theorem followedBy_empty (x : Render σ String) : followedBy x (pure "") = x := by
  unfold followedBy
  simp only [pure_bind, String.append_empty, bind_pure]

theorem items_cons (body : Value → Render σ String) (context v : Value) (vs : List Value) :
    items body context (v :: vs) =
      followedBy (body (if v.isObject then v else context)) (items body context vs) := by
  rw [items]
  rfl

theorem items_append (body : Value → Render σ String) (context : Value) (vs ws : List Value) :
    items body context (vs ++ ws) =
      followedBy (items body context vs) (items body context ws) := by
  induction vs with
  | nil =>
    rw [List.nil_append, items]
    exact (empty_followedBy _).symm
  | cons v vs ih => rw [List.cons_append, items_cons, items_cons, ih, followedBy_assoc]

end Render

open Render

/-! ## Lists of statements -/

section Statements

variable {σ : Type} (env : Environment σ)

theorem Statement.renderAll_cons (s : Statement) (ss : List Statement) (context : Value) :
    Statement.renderAll env (s :: ss) context =
      followedBy (s.render env context) (Statement.renderAll env ss context) := by
  rw [Statement.renderAll]
  rfl

theorem Statement.renderAll_singleton (s : Statement) (context : Value) :
    Statement.renderAll env [s] context = s.render env context := by
  rw [Statement.renderAll_cons, Statement.renderAll, followedBy_empty]

theorem Statement.renderAll_append (ss ss' : List Statement) (context : Value) :
    Statement.renderAll env (ss ++ ss') context =
      followedBy (Statement.renderAll env ss context) (Statement.renderAll env ss' context) := by
  induction ss with
  | nil =>
    rw [List.nil_append, Statement.renderAll]
    exact (empty_followedBy _).symm
  | cons s ss ih =>
    rw [List.cons_append, Statement.renderAll_cons, Statement.renderAll_cons, ih, followedBy_assoc]

/-- A text that was merged renders what its parts render. -/
theorem Statement.renderAll_joined (ss ss' : List Statement) (context : Value) :
    Statement.renderAll env (joined Statement.merge? ss ss') context =
      followedBy (Statement.renderAll env ss context) (Statement.renderAll env ss' context) := by
  have hcases := @joined_cases _ Statement.merge? ss ss'
  rcases hcases with h | ⟨s, s', r, xs, ys, hr, rfl, rfl, h⟩
  · rw [h, Statement.renderAll_append]
  · obtain ⟨value, other, rfl, rfl, rfl⟩ := Statement.exists_of_merge? hr
    have htext : ∀ value, (Statement.text value).render env context = pure value :=
      fun value => by rw [Statement.render]
    rw [h, ← Statement.renderAll_append, List.append_assoc, List.singleton_append,
      Statement.renderAll_append, Statement.renderAll_append]
    simp only [Statement.renderAll_cons, htext, pure_followedBy]

end Statements

/-! ## Blocks over arrays -/

section Blocks

variable {σ : Type} (env : Environment σ)

/-- What a block that is not negated renders for a value of its expression. -/
def Statement.renderOver (body : List Statement) (elseBody : Option (List Statement))
    (context v : Value) : Render σ String :=
  Render.block (fun c => Statement.renderAll env body c)
    (fun c => Statement.renderElse env elseBody c) false context v

variable {env} {e : Expression} {body : List Statement} {elseBody : Option (List Statement)}

/-- A block goes on with its value in the state that the expression left. -/
theorem Statement.runFrom_render_of_eval {negated : Bool} {context v : Value} {state middle : σ}
    (h : runFrom (e.eval env context) state = (.ok v, middle)) :
    runFrom ((Statement.block e negated body elseBody).render env context) state =
      runFrom (Render.block (fun c => Statement.renderAll env body c)
        (fun c => Statement.renderElse env elseBody c) negated context v) middle := by
  rw [Statement.render, runFrom_bind, h]

theorem Statement.runFrom_render_block {context v : Value} {state middle : σ}
    (h : runFrom (e.eval env context) state = (.ok v, middle)) :
    runFrom ((Statement.block e false body elseBody).render env context) state =
      runFrom (Statement.renderOver env body elseBody context v) middle :=
  Statement.runFrom_render_of_eval h

theorem Statement.renderOver_array {vs : List Value} (h : vs ≠ []) (context : Value) :
    Statement.renderOver env body elseBody context (.array vs) =
      Render.items (fun c => Statement.renderAll env body c) context vs := by
  obtain ⟨v, vs, rfl⟩ := List.exists_cons_of_ne_nil h
  rfl

theorem Statement.renderOver_append {vs ws : List Value} (hvs : vs ≠ []) (hws : ws ≠ [])
    (context : Value) :
    Statement.renderOver env body elseBody context (.array (vs ++ ws)) =
      followedBy (Statement.renderOver env body elseBody context (.array vs))
        (Statement.renderOver env body elseBody context (.array ws)) := by
  have hboth : vs ++ ws ≠ [] := List.append_ne_nil_of_left_ne_nil hvs ws
  rw [Statement.renderOver_array hboth, Statement.renderOver_array hvs,
    Statement.renderOver_array hws, Render.items_append]

/-- Items that are no objects do not change what the body sees. -/
theorem Statement.items_eq_renderAll_replicate {vs : List Value}
    (h : ∀ v ∈ vs, v.isObject = false) (context : Value) :
    Render.items (fun c => Statement.renderAll env body c) context vs =
      Statement.renderAll env (List.replicate vs.length body).flatten context := by
  induction vs with
  | nil =>
    rw [Render.items, List.length_nil, List.replicate_zero, List.flatten_nil, Statement.renderAll]
  | cons v vs ih =>
    obtain ⟨hv, hvs⟩ := List.forall_mem_cons.1 h
    rw [Render.items_cons, hv, ih hvs, List.length_cons, List.replicate_succ, List.flatten_cons,
      Statement.renderAll_append]
    rfl

end Blocks

/-- **Rendering in turn.** Statements that are put together from two parts render the first part and
then, from the state that it left, the second. So does a block over an array that is put together
from two which are not empty. Over an array without objects a block renders what its body, written
down once for every item, renders in its place. -/
theorem Statement.render_inTurn {σ : Type} (env : Environment σ) (context : Value) :
    (∀ (ss ss' : List Statement) (state : σ),
      runFrom (Statement.renderAll env (ss ++ ss') context) state =
        inTurn (runFrom (Statement.renderAll env ss context) state)
          (runFrom (Statement.renderAll env ss' context))) ∧
    ∀ (e : Expression) (body : List Statement) (elseBody : Option (List Statement))
      (state middle : σ),
      (∀ vs ws : List Value, vs ≠ [] → ws ≠ [] →
        runFrom (e.eval env context) state = (.ok (.array (vs ++ ws)), middle) →
        runFrom ((Statement.block e false body elseBody).render env context) state =
          inTurn (runFrom (Statement.renderOver env body elseBody context (.array vs)) middle)
            (runFrom (Statement.renderOver env body elseBody context (.array ws)))) ∧
      ∀ vs : List Value, vs ≠ [] → (∀ v ∈ vs, v.isObject = false) →
        runFrom (e.eval env context) state = (.ok (.array vs), middle) →
        runFrom ((Statement.block e false body elseBody).render env context) state =
          runFrom (Statement.renderAll env (List.replicate vs.length body).flatten context)
            middle := by
  refine ⟨fun ss ss' state => ?_, fun e body elseBody state middle =>
    ⟨fun vs ws hvs hws heval => ?_, fun vs hvs hobjects heval => ?_⟩⟩
  · rw [Statement.renderAll_append, runFrom_followedBy]
  · rw [Statement.runFrom_render_block heval, Statement.renderOver_append hvs hws,
      runFrom_followedBy]
  · rw [Statement.runFrom_render_block heval, Statement.renderOver_array hvs,
      Statement.items_eq_renderAll_replicate hobjects]

/-- A helper that answers differently each time, called for two items. -/
theorem Statement.render_inTurn_counting :
    let env : Environment Nat :=
      ⟨Registry.empty.register "next" fun _ n => (.ok (.bool (n % 2 = 0)), n + 1), .standard⟩
    let context : Value := .object [("items", .array [.null, .string "a"])]
    let body : List Statement := [.interpolation (.call "next" []), .text ";"]
    let items : Statement := .block (.path ["items"]) false body none
    runFrom (items.render env context) 0 =
        inTurn (runFrom (Statement.renderOver env body none context (.array [.null])) 0)
          (runFrom (Statement.renderOver env body none context (.array [.string "a"]))) ∧
      runFrom (items.render env context) 0 =
        runFrom (Statement.renderAll env (body ++ (body ++ [])) context) 0 ∧
      runFrom (items.render env context) 0 = (.ok "true;false;", 2) := by
  intro env context body items
  have heval : runFrom ((Expression.path ["items"]).eval env context) 0 =
      (.ok (.array [.null, .string "a"]), 0) := rfl
  have hlaws := (Statement.render_inTurn env context).2 (.path ["items"]) body none 0 0
  exact ⟨hlaws.1 [.null] [.string "a"] (by simp) (by simp) heval,
    hlaws.2 [.null, .string "a"] (by simp) (by simp [Value.isObject]) heval, rfl⟩

end Stencil
