import Stencil.Proofs.Render.Block

/-!
# Dotted paths and nested blocks

`Statement.render_nested`: a path leads where the rest of it leads from where its first part led. So
blocks in each other, one for each segment but the last, render what the dotted path renders, unless
something truthy on the way is no object.

Both of them stop on the way, but for different reasons. A path stops where a name is denied or
missing or where there is no object; blocks stop at a value that is not truthy. Such a value is no
object, so no path leads on from it.
-/

namespace Stencil

open Render

/-! ## Paths in two parts -/

namespace Denylist

variable (d : Denylist)

theorem resolve_of_isObject_eq_false {v : Value} (h : v.isObject = false) {segments : List String}
    (hsegments : segments ≠ []) : d.resolve v segments = .undefined := by
  obtain ⟨s, ss, rfl⟩ := List.exists_cons_of_ne_nil hsegments
  have hget : v.get? s = none := by
    cases v with
    | object entries => cases h
    | _ => rfl
  rw [resolve, hget, ite_self]

theorem resolve_undefined (segments : List String) :
    d.resolve .undefined segments = .undefined := by
  by_cases h : segments = []
  · rw [h, resolve]
  · exact d.resolve_of_isObject_eq_false rfl h

/-- Where the first part stops, the whole path does. -/
theorem resolve_append (v : Value) (front back : List String) :
    d.resolve v (front ++ back) = d.resolve (d.resolve v front) back := by
  induction front generalizing v with
  | nil => rw [List.nil_append, resolve]
  | cons s ss ih =>
    rw [List.cons_append, resolve, resolve]
    by_cases hdenied : d.denies s = true
    · rw [if_pos hdenied, if_pos hdenied, resolve_undefined]
    · rw [if_neg hdenied, if_neg hdenied]
      cases v.get? s with
      | none => exact (d.resolve_undefined back).symm
      | some w => exact ih w

end Denylist

/-! ## Blocks along a path -/

/-- A block for every segment but the last, each one in the block before it, and an interpolation of
the last segment. -/
def Statement.nested (segment : String) : List String → Statement
  | [] => .interpolation (.path [segment])
  | next :: segments => .block (.path [segment]) false [Statement.nested next segments] none

section Rendering

variable {σ : Type} (env : Environment σ)

theorem Statement.render_path (segments : List String) (context : Value) :
    (Statement.interpolation (.path segments)).render env context =
      pure (env.denylist.resolve context segments).output := by
  rw [Statement.render, Expression.eval, pure_bind]

theorem Statement.render_nested_eq (segment : String) (segments : List String) (context : Value)
    (h : ∀ front back, front ++ back = segment :: segments → front ≠ [] → back ≠ [] →
      (env.denylist.resolve context front).isTruthy = true →
        (env.denylist.resolve context front).isObject = true) :
    (Statement.nested segment segments).render env context =
      pure (env.denylist.resolve context (segment :: segments)).output := by
  induction segments generalizing segment context with
  | nil => exact Statement.render_path env [segment] context
  | cons next segments ih =>
    -- the value of the outermost block, from which the rest of the path goes on
    obtain ⟨v, hv⟩ : ∃ v, env.denylist.resolve context [segment] = v := ⟨_, rfl⟩
    have hrest : ∀ more, env.denylist.resolve context (segment :: more) =
        env.denylist.resolve v more := fun more => by
      rw [← hv, ← Denylist.resolve_append, List.singleton_append]
    rw [Statement.nested, Statement.render, Expression.eval, pure_bind, hv, hrest]
    cases hobject : v.isObject with
    | true =>
      rw [block_of_isObject hobject, Statement.renderAll_singleton]
      refine ih next v fun front back happend hfront hback => ?_
      rw [← hrest]
      exact h (segment :: front) back (by rw [List.cons_append, happend]) (by simp) hback
    | false =>
      have htruthy : v.isTruthy = false := by
        have hfirst := h [segment] (next :: segments) rfl (by simp) (by simp)
        rw [hv, hobject] at hfirst
        exact Bool.eq_false_iff.2 fun htruthy => Bool.false_ne_true (hfirst htruthy)
      rw [block_of_isTruthy_eq_false htruthy, Statement.renderElse,
        env.denylist.resolve_of_isObject_eq_false hobject (by simp)]
      rfl

end Rendering

/-- **Paths and blocks agree.** A path that is put together from two leads where its second part
leads from where its first part led, whichever names are denied. Where everything truthy before the
end of a path is an object, the blocks along the path render what an interpolation of the path does.
They call no helpers and cannot fail. -/
theorem Statement.render_nested :
    (∀ (d : Denylist) (v : Value) (front back : List String),
      d.resolve v (front ++ back) = d.resolve (d.resolve v front) back) ∧
    ∀ (σ : Type) (env : Environment σ) (context : Value) (segment : String)
      (segments : List String),
      (∀ front back, front ++ back = segment :: segments → front ≠ [] → back ≠ [] →
        (env.denylist.resolve context front).isTruthy = true →
          (env.denylist.resolve context front).isObject = true) →
      Statement.renderAll env [Statement.nested segment segments] context =
          Statement.renderAll env [.interpolation (.path (segment :: segments))] context ∧
        Statement.renderAll env [Statement.nested segment segments] context =
          pure (env.denylist.resolve context (segment :: segments)).output := by
  refine ⟨Denylist.resolve_append, fun σ env context segment segments h => ?_⟩
  rw [Statement.renderAll_singleton, Statement.renderAll_singleton, Statement.render_path,
    Statement.render_nested_eq env segment segments context h]
  exact ⟨rfl, rfl⟩

/-- The entry under a denied name is not rendered by either, though the way to it is open. -/
theorem Statement.render_nested_denied :
    let env : Environment Unit := ⟨.empty, ⟨["secret"]⟩⟩
    let context : Value := .object [("user", .object [("secret", .object [("key", .string "x")])])]
    Statement.renderAll env [Statement.nested "user" ["secret", "key"]] context =
      Statement.renderAll env [.interpolation (.path ["user", "secret", "key"])] context := by
  intro env context
  refine (Statement.render_nested.2 Unit env context "user" ["secret", "key"] ?_).1
  intro front back happend hfront hback
  obtain ⟨rfl, -⟩ | ⟨front, rfl, hrest⟩ := List.append_eq_cons_iff.1 happend
  · exact absurd rfl hfront
  obtain ⟨rfl, -⟩ | ⟨front, rfl, -⟩ := List.append_eq_cons_iff.1 hrest.symm
  · exact fun _ => rfl
  -- from the denied name on, nothing is truthy
  have hdenied : env.denylist.resolve context ["user", "secret"] = .undefined := rfl
  have hstops : env.denylist.resolve context ("user" :: "secret" :: front) = .undefined := by
    have happend := env.denylist.resolve_append context ["user", "secret"] front
    rwa [hdenied, Denylist.resolve_undefined] at happend
  rw [hstops]
  exact fun htruthy => by cases htruthy

/-- Over items a block renders its body for each of them, where a path stops. -/
example : (Render.runFrom (Statement.renderAll (⟨.empty, .standard⟩ : Environment Unit)
      [Statement.nested "a" ["b"]] (.object [("a", .array [.object [("b", .string "x")]])])) ()).1 =
    .ok "x" := by
  rfl

end Stencil
