import Stencil.Proofs.Joined
import Stencil.Proofs.Tree.Depth

/-!
# Statements that are joined

Texts at the seam of two lists of statements are one text. `Template.nestingDepth_joined`: the
joined tree is as deep as the deeper one of the two.
-/

namespace Stencil

namespace Statement

/-- Two texts side by side are one. -/
def merge? : Statement → Statement → Option Statement
  | text value, text other => some (text (value ++ other))
  | _, _ => none

theorem exists_of_merge? {s s' r : Statement} (h : merge? s s' = some r) :
    ∃ value other, s = .text value ∧ s' = .text other ∧ r = .text (value ++ other) := by
  unfold merge? at h
  split at h
  · obtain rfl := Option.some.inj h
    exact ⟨_, _, rfl, rfl, rfl⟩
  · cases h

theorem merge?_eq_none_left {s : Statement} (h : ∀ value, s ≠ .text value)
    (s' : Statement) : merge? s s' = none := by
  cases s with
  | text value => exact absurd rfl (h value)
  | _ => rfl

theorem merge?_eq_none_right {s' : Statement} (h : ∀ value, s' ≠ .text value)
    (s : Statement) : merge? s s' = none := by
  cases s' with
  | text value => exact absurd rfl (h value)
  | _ => cases s <;> rfl

/-! ## The depth of joined trees -/

theorem blockDepths_append (ss ss' : List Statement) :
    blockDepths (ss ++ ss') = max (blockDepths ss) (blockDepths ss') := by
  induction ss with
  | nil => exact (Nat.zero_max _).symm
  | cons s ss ih => simp only [List.cons_append, blockDepths, ih, Nat.max_assoc]

theorem callDepths_append (ss ss' : List Statement) :
    callDepths (ss ++ ss') = max (callDepths ss) (callDepths ss') := by
  induction ss with
  | nil => exact (Nat.zero_max _).symm
  | cons s ss ih => simp only [List.cons_append, callDepths, ih, Nat.max_assoc]

theorem blockDepths_joined (ss ss' : List Statement) :
    blockDepths (joined merge? ss ss') = max (blockDepths ss) (blockDepths ss') := by
  have hcases := @joined_cases _ merge? ss ss'
  rcases hcases with h | ⟨s, s', r, xs, ys, hr, rfl, rfl, h⟩
  · rw [h, blockDepths_append]
  · obtain ⟨value, other, rfl, rfl, rfl⟩ := exists_of_merge? hr
    rw [h]
    simp only [blockDepths_append, blockDepths, blockDepth, Nat.zero_max, Nat.max_zero]

theorem callDepths_joined (ss ss' : List Statement) :
    callDepths (joined merge? ss ss') = max (callDepths ss) (callDepths ss') := by
  have hcases := @joined_cases _ merge? ss ss'
  rcases hcases with h | ⟨s, s', r, xs, ys, hr, rfl, rfl, h⟩
  · rw [h, callDepths_append]
  · obtain ⟨value, other, rfl, rfl, rfl⟩ := exists_of_merge? hr
    rw [h]
    simp only [callDepths_append, callDepths, callDepth, Nat.zero_max, Nat.max_zero]

end Statement

theorem Template.nestingDepth_joined (ss ss' : List Statement) :
    (Template.ofStatements (joined Statement.merge? ss ss')).nestingDepth =
      max (Template.ofStatements ss).nestingDepth (Template.ofStatements ss').nestingDepth := by
  simp only [Template.nestingDepth_eq, Template.ofStatements, Statement.blockDepths_joined,
    Statement.callDepths_joined]
  ac_rfl

end Stencil
