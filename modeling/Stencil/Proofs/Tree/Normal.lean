import Stencil.Proofs.Tree.Joining

/-!
# Normal forms of trees

A tree is normal if it holds no comments, no statements of unknown kinds, no empty texts and no two
texts side by side, in any body at any depth. `Template.normal` brings a tree into this form:
what renders nothing by itself is left out, and texts that come to stand side by side are one.

The result is normal (`Template.isNormal_normal`), a normal tree stays as it is
(`Template.normal_of_isNormal`), and no depth changes (`Template.nestingDepth_normal`).
-/

namespace Stencil

/-! ## Normal trees -/

mutual

/-- A statement that renders something of its own, with normal bodies. -/
def Statement.IsNormal : Statement → Prop
  | .text value => value ≠ ""
  | .comment _ => False
  | .interpolation _ => True
  | .block _ _ body elseBody => Statement.AllNormal body ∧ Statement.ElseNormal elseBody
  | .unknown => False

/-- Normal statements, of which no two that are side by side could be one. -/
def Statement.AllNormal : List Statement → Prop
  | [] => True
  | s :: ss => s.IsNormal ∧ (∀ next ∈ ss.head?, s.merge? next = none) ∧ Statement.AllNormal ss

def Statement.ElseNormal : Option (List Statement) → Prop
  | none => True
  | some ss => Statement.AllNormal ss

end

def Template.IsNormal (t : Template) : Prop :=
  Statement.AllNormal t.statements

/-! ## Bringing a tree into normal form -/

mutual

/-- The normal form of a statement, if anything is left of it. -/
def Statement.normal : Statement → Option Statement
  | .text value => if value = "" then none else some (.text value)
  | .comment _ => none
  | .interpolation e => some (.interpolation e)
  | .block e negated body elseBody =>
    some (.block e negated (Statement.normalAll body) (Statement.normalElse elseBody))
  | .unknown => none

def Statement.normalAll : List Statement → List Statement
  | [] => []
  | s :: ss => joined Statement.merge? s.normal.toList (Statement.normalAll ss)

/-- An else body stays even if nothing is left in it. -/
def Statement.normalElse : Option (List Statement) → Option (List Statement)
  | none => none
  | some ss => some (Statement.normalAll ss)

end

def Template.normal (t : Template) : Template :=
  ⟨t.version, Statement.normalAll t.statements⟩

/-! ## The result is normal -/

namespace Statement

/-- Whether a text can be merged does not hang on what it says. -/
theorem merge?_text_eq_none_iff (value other : String) (next : Statement) :
    (text value).merge? next = none ↔ (text other).merge? next = none := by
  cases next <;> simp [merge?]

theorem AllNormal.joined {s : Statement} {ss : List Statement} (hs : s.IsNormal)
    (hss : AllNormal ss) : AllNormal (joined merge? [s] ss) := by
  cases ss with
  | nil =>
    rw [joined_nil_right]
    exact ⟨hs, by simp, trivial⟩
  | cons s' ss =>
    cases hmerge : s.merge? s' with
    | none =>
      have happend : Stencil.joined merge? [s] (s' :: ss) = [s] ++ s' :: ss := by
        refine joined_eq_append ?_
        rintro x hx y hy
        obtain rfl := Option.some.inj hx
        obtain rfl := Option.some.inj hy
        exact hmerge
      rw [happend]
      refine ⟨hs, ?_, hss⟩
      rintro next hnext
      obtain rfl := Option.some.inj hnext
      exact hmerge
    | some r =>
      rw [joined_singleton_cons hmerge]
      obtain ⟨value, other, rfl, rfl, rfl⟩ := exists_of_merge? hmerge
      obtain ⟨-, hnext, hss⟩ := hss
      refine ⟨?_, fun next hmem => ?_, hss⟩
      · exact fun h => hs (String.append_eq_empty_iff.1 h).1
      · exact (merge?_text_eq_none_iff _ other next).2 (hnext next hmem)

mutual

theorem isNormal_normal : ∀ s : Statement, ∀ s' ∈ s.normal, s'.IsNormal
  | .text value => by
    rw [normal]
    split
    · exact fun _ h => by cases h
    · rintro s' hs'
      obtain rfl := Option.some.inj hs'
      assumption
  | .comment _ => fun _ h => by cases h
  | .interpolation _ => fun _ h => by cases h; trivial
  | .block e negated body elseBody => by
    rintro s' hs'
    obtain rfl := Option.some.inj hs'
    exact ⟨allNormal_normalAll body, elseNormal_normalElse elseBody⟩
  | .unknown => fun _ h => by cases h

theorem allNormal_normalAll : ∀ ss : List Statement, AllNormal (normalAll ss)
  | [] => trivial
  | s :: ss => by
    have hs := isNormal_normal s
    have hss := allNormal_normalAll ss
    rw [normalAll]
    cases hnormal : s.normal with
    | none => exact hss
    | some s' => exact .joined (hs s' hnormal) hss

theorem elseNormal_normalElse : ∀ elseBody : Option (List Statement),
    ElseNormal (normalElse elseBody)
  | none => trivial
  | some ss => allNormal_normalAll ss

end

/-! ## Normal trees stay as they are -/

mutual

theorem normal_of_isNormal : ∀ s : Statement, s.IsNormal → s.normal = some s
  | .text _, h => if_neg h
  | .interpolation _, _ => rfl
  | .block e negated body elseBody, h => by
    rw [normal, normalAll_of_allNormal body h.1, normalElse_of_elseNormal elseBody h.2]

theorem normalAll_of_allNormal : ∀ ss : List Statement, AllNormal ss → normalAll ss = ss
  | [], _ => rfl
  | s :: ss, h => by
    obtain ⟨hs, hnext, hss⟩ := h
    rw [normalAll, normal_of_isNormal s hs, normalAll_of_allNormal ss hss]
    refine joined_eq_append ?_
    rintro x hx y hy
    obtain rfl := Option.some.inj hx
    exact hnext y hy

theorem normalElse_of_elseNormal : ∀ elseBody : Option (List Statement),
    ElseNormal elseBody → normalElse elseBody = elseBody
  | none, _ => rfl
  | some ss, h => congrArg some (normalAll_of_allNormal ss h)

end

/-! ## Depths stay as they are -/

mutual

theorem depths_normal : ∀ s : Statement,
    blockDepths s.normal.toList = s.blockDepth ∧ callDepths s.normal.toList = s.callDepth
  | .text value => by
    rw [normal]
    split <;> exact ⟨rfl, rfl⟩
  | .comment _ => ⟨rfl, rfl⟩
  | .interpolation _ => ⟨rfl, Nat.max_zero _⟩
  | .block e negated body elseBody => by
    obtain ⟨hblocks, hcalls⟩ := depths_normalAll body
    obtain ⟨helseBlocks, helseCalls⟩ := depths_normalElse elseBody
    simp only [normal, Option.toList_some, blockDepths, callDepths, blockDepth, callDepth,
      Nat.max_zero, hblocks, hcalls, helseBlocks, helseCalls, and_self]
  | .unknown => ⟨rfl, rfl⟩

theorem depths_normalAll : ∀ ss : List Statement,
    blockDepths (normalAll ss) = blockDepths ss ∧ callDepths (normalAll ss) = callDepths ss
  | [] => ⟨rfl, rfl⟩
  | s :: ss => by
    obtain ⟨hblock, hcall⟩ := depths_normal s
    obtain ⟨hblocks, hcalls⟩ := depths_normalAll ss
    rw [normalAll, blockDepths_joined, callDepths_joined, hblock, hcall, hblocks, hcalls]
    exact ⟨rfl, rfl⟩

theorem depths_normalElse : ∀ elseBody : Option (List Statement),
    elseBlockDepth (normalElse elseBody) = elseBlockDepth elseBody ∧
      elseCallDepth (normalElse elseBody) = elseCallDepth elseBody
  | none => ⟨rfl, rfl⟩
  | some ss => depths_normalAll ss

end

end Statement

namespace Template

variable (t : Template)

theorem isNormal_normal : t.normal.IsNormal :=
  Statement.allNormal_normalAll t.statements

theorem normal_of_isNormal {t : Template} (h : t.IsNormal) : t.normal = t := by
  unfold normal
  rw [Statement.normalAll_of_allNormal t.statements h]

theorem nestingDepth_normal : t.normal.nestingDepth = t.nestingDepth := by
  obtain ⟨hblocks, hcalls⟩ := Statement.depths_normalAll t.statements
  rw [nestingDepth_eq, nestingDepth_eq]
  show max (Statement.blockDepths (Statement.normalAll t.statements))
    (Statement.callDepths (Statement.normalAll t.statements)) = _
  rw [hblocks, hcalls]

end Template

end Stencil
