import Stencil.Proofs.Grammar.Completeness
import Stencil.Proofs.Grammar.Nesting

/-!
# Templates and derivations

`template_eq_ok_iff_derivesBody`: tokens make up a template exactly if they derive its statements
and these do not nest too deep.
-/

namespace Stencil.Grammar

/-- A body never ends behind the tokens. -/
theorem body_stop_le {tokens : List Token} {stop : Nat} {ss : List Statement}
    (h : body tokens 0 = .ok (stop, ss)) : stop ≤ tokens.length := by
  obtain ⟨read, hread, hstop, -⟩ := obeys_bodyWithin _ _ tokens 0 stop ss h
  have hlen := congrArg List.length hread
  rw [List.drop_zero, List.length_append] at hlen
  omega

theorem template_eq_ok {tokens : List Token} {t : Template} :
    template tokens = .ok t ↔
      nestingError? .none 0 tokens = .none ∧ DerivesBody tokens t.statements ∧
        t.version = Template.currentVersion := by
  unfold template templateWith
  cases hnesting : nestingError? .none 0 tokens with
  | some e => simp
  | none =>
    cases hbody : body tokens 0 with
    | error e =>
      simp only [reduceCtorEq, true_and, false_iff]
      rintro ⟨hss, -⟩
      rw [hss.body_eq_ok] at hbody
      cases hbody
    | ok result =>
      obtain ⟨stop, ss⟩ := result
      simp only [true_and]
      have hle := body_stop_le hbody
      by_cases hstop : stop < tokens.length
      · rw [if_pos hstop]
        simp only [reduceCtorEq, false_iff]
        rintro ⟨hss, -⟩
        rw [hss.body_eq_ok] at hbody
        obtain ⟨rfl, -⟩ := Prod.mk.inj (Except.ok.inj hbody)
        omega
      · rw [if_neg hstop]
        obtain rfl : stop = tokens.length := by omega
        have hss := body_eq_ok_iff.1 hbody
        obtain ⟨version, statements⟩ := t
        simp only [Template.ofStatements, Except.ok.injEq, Template.mk.injEq]
        constructor
        · rintro ⟨rfl, rfl⟩
          exact ⟨hss, rfl⟩
        · rintro ⟨hstatements, rfl⟩
          refine ⟨rfl, ?_⟩
          have := hstatements.body_eq_ok.symm.trans hbody
          exact (Prod.mk.inj (Except.ok.inj this)).2.symm

theorem DerivesBody.unique {tokens : List Token} {ss ss' : List Statement}
    (h : DerivesBody tokens ss) (h' : DerivesBody tokens ss') : ss = ss' := by
  have := h.body_eq_ok.symm.trans h'.body_eq_ok
  exact (Prod.mk.inj (Except.ok.inj this)).2

/-- **Templates are what the grammar derives.** The tokens of a template derive its statements, in
one way only, and its version and its depth are in bounds; all such tokens are accepted. -/
theorem template_eq_ok_iff_derivesBody (tokens : List Token) :
    (∀ t : Template, template tokens = .ok t ↔
      t.version = 1 ∧ t.nestingDepth ≤ 128 ∧ DerivesBody tokens t.statements) ∧
    (∀ ss ss' : List Statement, DerivesBody tokens ss → DerivesBody tokens ss' → ss = ss') := by
  refine ⟨fun t => ?_, fun ss ss' h h' => h.unique h'⟩
  rw [template_eq_ok]
  constructor
  · rintro ⟨hnesting, hss, hversion⟩
    have hdepth := hss.nestingError?_eq_none_iff.1 hnesting
    rw [Template.nestingDepth_eq] at hdepth ⊢
    exact ⟨hversion, hdepth, hss⟩
  · rintro ⟨hversion, hdepth, hss⟩
    refine ⟨hss.nestingError?_eq_none_iff.2 ?_, hss, hversion⟩
    rw [Template.nestingDepth_eq] at hdepth ⊢
    exact hdepth

/-- A call as an argument, an else branch and a block around both. -/
theorem template_block_eq_ok :
    template [.opener .blockOpen, .identifier "a", .closer, .opener .interpolation,
        .identifier "f", .whitespace " ", .leftParen, .identifier "g", .rightParen, .closer,
        .opener .interpolation, .identifier "else", .closer, .text "x",
        .opener .blockClose, .identifier "a", .closer] =
      .ok ⟨1, [.block (.path ["a"]) false [.interpolation (.call "f" [.call "g" []])]
        (some [.text "x"])]⟩ := by
  refine ((template_eq_ok_iff_derivesBody _).1 _).2 ⟨rfl, ?_, ?_⟩
  · rw [Template.nestingDepth_eq]
    decide
  · have hnoElse : ¬ IsElseTag [.opener .interpolation, .identifier "f", .whitespace " ",
        .leftParen, .identifier "g", .rightParen, .closer] := by
      intro helse
      have hmem := helse.subset (List.mem_singleton_self _)
      simp at hmem
    have hcall : DerivesExpression [.identifier "f", .whitespace " ", .leftParen, .identifier "g",
        .rightParen] (.call "f" [.call "g" []]) :=
      .call "f" (.cons " " (.call "g" .none .nil .none) .nil) (by simp)
    have hbody := DerivesBody.cons (.interpolation (.mk .none .none) hcall hnoElse) .nil
    have helse : DerivesElse _ _ := .some (.mk .none .none) (.cons (.text "x") .nil)
    have hclose : IsCloseTag "a" _ := ⟨_, ["a"], .one "a", .mk .none .none, rfl⟩
    exact .cons (.block .plain (.mk .none .none) (.path (.one "a")) hbody helse hclose) .nil

end Stencil.Grammar
