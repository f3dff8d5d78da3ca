import Stencil.Proofs.Grammar.Template
import Stencil.Proofs.Lexeme.Joining
import Stencil.Proofs.Tree.Joining

/-!
# Derivations that are joined

`DerivesBody.joined`: tokens that are joined derive the statements that are joined, with a text at
the seam where the tokens have one.
-/

namespace Stencil

namespace Grammar

/-! ## The first and the last token of a statement -/

theorem IsTag.getLast?_eq {marker : Marker} {us ts : List Token} (h : IsTag marker us ts) :
    ts.getLast? = some .closer := by
  cases h
  simp [List.getLast?_cons, List.getLast?_append]

/-- Only a text begins with a token for a text. -/
theorem DerivesStatement.head?_ne_text {ts : List Token} {s : Statement}
    (h : DerivesStatement ts s) (hs : ∀ value, s ≠ .text value) (rest : List Token) :
    ∀ t ∈ (ts ++ rest).head?, ∀ content, t ≠ .text content := by
  rintro t ht content rfl
  cases h with
  | text value => exact hs value rfl
  | comment value => cases ht
  | interpolation htag _ _ => cases (htag.exists_head? rest).symm.trans ht
  | block _ htag _ _ _ _ =>
    rw [List.append_assoc] at ht
    cases (htag.exists_head? _).symm.trans ht

/-- Only a text ends with a token for a text. -/
theorem DerivesStatement.getLast?_ne_text {ts : List Token} {s : Statement}
    (h : DerivesStatement ts s) (hs : ∀ value, s ≠ .text value) :
    ∀ t ∈ ts.getLast?, ∀ content, t ≠ .text content := by
  rintro t ht content rfl
  cases h with
  | text value => exact hs value rfl
  | comment value => cases ht
  | interpolation htag _ _ => cases htag.getLast?_eq.symm.trans ht
  | block _ _ _ _ _ hclose =>
    obtain ⟨_, _, -, htag, -⟩ := hclose
    simp only [List.getLast?_append, htag.getLast?_eq, Option.some_or] at ht
    cases ht

theorem DerivesBody.ne_nil {ts : List Token} {ss : List Statement} (h : DerivesBody ts ss)
    (hss : ss ≠ []) : ts ≠ [] := by
  cases h with
  | nil => exact absurd rfl hss
  | cons h _ => exact List.append_ne_nil_of_left_ne_nil h.ne_nil _

/-! ## Joined derivations -/

/-- One statement before a body. -/
theorem DerivesStatement.joined {ts us : List Token} {s : Statement} {ss : List Statement}
    (h : DerivesStatement ts s) (hus : DerivesBody us ss) :
    DerivesBody (joined Token.merge? ts us) (joined Statement.merge? [s] ss) := by
  by_cases hs : ∃ value, s = .text value
  · obtain ⟨value, rfl⟩ := hs
    cases h
    cases hus with
    | nil =>
      rw [joined_nil_right, joined_nil_right]
      exact .cons (.text value) .nil
    | @cons vs ws s' ss h' hws =>
      by_cases hs' : ∃ other, s' = .text other
      · obtain ⟨other, rfl⟩ := hs'
        cases h'
        rw [List.singleton_append, joined_singleton_cons rfl, joined_singleton_cons rfl]
        exact .cons (.text (value ++ other)) hws
      · have hs' : ∀ other, s' ≠ .text other := fun other heq => hs' ⟨other, heq⟩
        rw [joined_eq_append, joined_eq_append]
        · exact .cons (.text value) (.cons h' hws)
        · rintro s - s'' hs''
          obtain rfl := Option.some.inj hs''
          exact Statement.merge?_eq_none_right hs' s
        · intro t _ u hu
          exact Token.merge?_eq_none_right (h'.head?_ne_text hs' ws u hu) t
  · have hs : ∀ value, s ≠ .text value := fun value heq => hs ⟨value, heq⟩
    rw [joined_eq_append, joined_eq_append]
    · exact .cons h hus
    · rintro s' hs' s'' -
      obtain rfl := Option.some.inj hs'
      exact Statement.merge?_eq_none_left hs s''
    · intro t ht u _
      exact Token.merge?_eq_none_left (h.getLast?_ne_text hs t ht) u

/-- **Joined derivations.** -/
theorem DerivesBody.joined {ts us : List Token} {ss ss' : List Statement} (h : DerivesBody ts ss)
    (h' : DerivesBody us ss') :
    DerivesBody (joined Token.merge? ts us) (joined Statement.merge? ss ss') := by
  induction ss generalizing ts with
  | nil =>
    cases h
    rw [joined_nil_left, joined_nil_left]
    exact h'
  | cons s ss ih =>
    cases h with
    | cons hs hss =>
      rename_i ts vs
      by_cases hne : ss = []
      · subst hne
        cases hss
        rw [List.append_nil]
        exact hs.joined h'
      · rw [joined_cons_of_ne_nil s hne, joined_append_of_ne_nil ts (hss.ne_nil hne)]
        exact .cons hs (ih hss)

end Grammar

end Stencil
