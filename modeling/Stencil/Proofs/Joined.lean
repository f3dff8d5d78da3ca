/-!
# Lists joined at a seam

Two lists one after the other, where the last item of the one and the first item of the other make
up one item if they can be merged.
-/

namespace Stencil

variable {α : Type}

/-- What the last item of `xs` and the first of `ys` are merged into. -/
def seam? (merge? : α → α → Option α) (xs ys : List α) : Option α := do
  let x ← xs.getLast?
  let y ← ys.head?
  merge? x y

/-- Both lists, with their items at the seam merged if they can be. -/
def joined (merge? : α → α → Option α) (xs ys : List α) : List α :=
  match seam? merge? xs ys with
  | some z => xs.dropLast ++ z :: ys.tail
  | none => xs ++ ys

variable {merge? : α → α → Option α}

@[simp] theorem joined_nil_left (ys : List α) : joined merge? [] ys = ys :=
  rfl

@[simp] theorem joined_nil_right (xs : List α) : joined merge? xs [] = xs := by
  unfold joined seam?
  cases xs.getLast? with
  | none => exact List.append_nil xs
  | some x => exact List.append_nil xs

/-- Where nothing can be merged. -/
theorem joined_eq_append {xs ys : List α}
    (h : ∀ x ∈ xs.getLast?, ∀ y ∈ ys.head?, merge? x y = none) :
    joined merge? xs ys = xs ++ ys := by
  have hseam : seam? merge? xs ys = none := by
    unfold seam?
    cases hx : xs.getLast? with
    | none => rfl
    | some x =>
      cases hy : ys.head? with
      | none => rfl
      | some y => exact h x hx y hy
  unfold joined
  rw [hseam]

/-- Where two items are merged. -/
theorem joined_concat_cons {x y z : α} (h : merge? x y = some z) (xs ys : List α) :
    joined merge? (xs ++ [x]) (y :: ys) = xs ++ z :: ys := by
  have hseam : seam? merge? (xs ++ [x]) (y :: ys) = some z := by
    unfold seam?
    rw [List.getLast?_concat]
    exact h
  unfold joined
  rw [hseam]
  simp only [List.dropLast_concat, List.tail_cons]

theorem joined_singleton_cons {x y z : α} (h : merge? x y = some z) (ys : List α) :
    joined merge? [x] (y :: ys) = z :: ys :=
  joined_concat_cons h [] ys

theorem joined_cons_of_ne_nil (x : α) {xs : List α} (h : xs ≠ []) (ys : List α) :
    joined merge? (x :: xs) ys = x :: joined merge? xs ys := by
  obtain ⟨x', xs, rfl⟩ := List.exists_cons_of_ne_nil h
  have hseam : seam? merge? (x :: x' :: xs) ys = seam? merge? (x' :: xs) ys := by
    unfold seam?
    rw [List.getLast?_cons_cons]
  unfold joined
  rw [hseam]
  cases seam? merge? (x' :: xs) ys <;> rfl

theorem joined_append_of_ne_nil (xs : List α) {ys : List α} (h : ys ≠ []) (zs : List α) :
    joined merge? (xs ++ ys) zs = xs ++ joined merge? ys zs := by
  induction xs with
  | nil => rfl
  | cons x xs ih =>
    have hne : xs ++ ys ≠ [] := List.append_ne_nil_of_right_ne_nil xs h
    rw [List.cons_append, joined_cons_of_ne_nil x hne, ih, List.cons_append]

/-- A joined list is the two lists, or ends and goes on around one merged item. -/
theorem joined_cases (xs ys : List α) :
    (joined merge? xs ys = xs ++ ys) ∨
    ∃ x y z xs' ys', merge? x y = some z ∧ xs = xs' ++ [x] ∧ ys = y :: ys' ∧
      joined merge? xs ys = xs' ++ z :: ys' := by
  cases hx : xs.getLast? with
  | none =>
    refine .inl (joined_eq_append ?_)
    rw [hx]
    rintro x ⟨⟩
  | some x =>
    cases ys with
    | nil => exact .inl (by rw [joined_nil_right, List.append_nil])
    | cons y ys =>
      obtain ⟨xs, rfl⟩ := List.getLast?_eq_some_iff.1 hx
      cases hz : merge? x y with
      | some z => exact .inr ⟨x, y, z, xs, ys, hz, rfl, rfl, joined_concat_cons hz xs ys⟩
      | none =>
        refine .inl (joined_eq_append fun x' hx' y' hy' => ?_)
        obtain rfl := Option.some.inj (hx.symm.trans hx')
        obtain rfl := Option.some.inj hy'
        exact hz

end Stencil
