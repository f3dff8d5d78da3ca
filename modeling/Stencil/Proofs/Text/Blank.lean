import Stencil.Text.Blank
import Stencil.Text.Word

/-!
# Blanks

No blank is a letter or a number (`not_isAlphanumeric_of_isBlank`), and trimming takes blanks off
either end of a text (`trim_cons`, `trim_concat`).
-/

namespace Stencil.Text

/-! ## The members of a set of code points -/

namespace CodePointSet

/-- The code points between the first two changes, the next two and so on. -/
def membersOf : List Nat → List Nat
  | start :: stop :: cs => List.range' start (stop - start) ++ membersOf cs
  | _ => []

theorem holdsAfter_cons_cons {n start stop : Nat} {cs : List Nat}
    (h : holdsAfter n false (start :: stop :: cs) = true) :
    start ≤ n ∧ (n < stop ∨ holdsAfter n false cs = true) := by
  rw [holdsAfter, holdsAfter] at h
  by_cases hstart : n < start
  · rw [if_pos hstart] at h
    cases h
  · rw [if_neg hstart] at h
    refine ⟨by omega, ?_⟩
    by_cases hstop : n < stop
    · exact .inl hstop
    · rw [if_neg hstop] at h
      exact .inr h

/-- An even number of changes bounds the set from above. -/
theorem mem_membersOf {n : Nat} {cs : List Nat} (hcs : cs.length % 2 = 0)
    (h : holdsAfter n false cs = true) : n ∈ membersOf cs := by
  induction cs using membersOf.induct with
  | case1 start stop cs ih =>
    obtain ⟨hstart, hn⟩ := holdsAfter_cons_cons h
    rw [membersOf, List.mem_append, List.mem_range'_1]
    by_cases hstop : n < stop
    · left; omega
    · right
      rw [List.length_cons, List.length_cons] at hcs
      exact ih (by omega) (hn.resolve_left hstop)
  | case2 cs hshort =>
    match cs with
    | [] => cases h
    | [_] => cases hcs
    | start :: stop :: cs => exact absurd rfl (hshort start stop cs)

end CodePointSet

theorem not_contains_alphanumerics_of_mem_blanks :
    ∀ n ∈ CodePointSet.membersOf blanks.changes,
      CodePointSet.holdsAfter n false alphanumerics.changes = false := by
  decide +kernel

theorem not_isAlphanumeric_of_isBlank {c : Char} (h : isBlank c = true) :
    isAlphanumeric c = false :=
  not_contains_alphanumerics_of_mem_blanks c.toNat (CodePointSet.mem_membersOf rfl h)

/-! ## Trimming -/

theorem trim_cons {c : Char} (h : isBlank c = true) (cs : List Char) :
    trim (c :: cs) = trim cs := by
  unfold trim
  rw [List.dropWhile_cons_of_pos h]

theorem trim_concat {c : Char} (h : isBlank c = true) (cs : List Char) :
    trim (cs ++ [c]) = trim cs := by
  unfold trim
  rw [List.dropWhile_append]
  by_cases hcs : (cs.dropWhile isBlank).isEmpty
  · rw [if_pos hcs, List.dropWhile_cons_of_pos h, List.isEmpty_iff.1 hcs]
    rfl
  · rw [if_neg hcs, List.reverse_append, List.reverse_singleton, List.singleton_append,
      List.dropWhile_cons_of_pos h]

end Stencil.Text
