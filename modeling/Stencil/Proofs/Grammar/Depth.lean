import Stencil.Engine
import Stencil.Proofs.Grammar.Template
import Stencil.Proofs.Render.Runs
import Stencil.Proofs.Tree.Reload

/-!
# The scan for nesting and the depth of the tree

`template_eq_ok_iff_body_shallow`: of the tokens that are read as a body to their end, those are
refused that give a tree which is too deep to be rendered. So what is compiled is never too deep for
rendering, nor is its version unknown there.
-/

namespace Stencil

namespace Grammar

/-- The faults of the scan for nesting. -/
inductive Fault.OfNesting : Fault → Prop
  | blocks : OfNesting .blocksTooDeep
  | calls : OfNesting .callsTooDeep

theorem Nesting.ofNesting_of_fault? {n : Nesting} {fault : Fault} (h : n.fault? = some fault) :
    fault.OfNesting := by
  unfold Nesting.fault? at h
  split at h
  · obtain rfl := Option.some.inj h
    exact .blocks
  · split at h
    · obtain rfl := Option.some.inj h
      exact .calls
    · cases h

/-- The scan refuses tokens for their nesting only, at one of them. -/
theorem exists_of_nestingError? {n : Nesting} {pos : Nat} {ts : List Token}
    {e : ParseError Fault} (h : nestingError? n pos ts = some e) :
    ∃ fault k, fault.OfNesting ∧ k < ts.length ∧ e = .failure fault (pos + k) := by
  induction ts generalizing n pos with
  | nil => cases h
  | cons t ts ih =>
    unfold nestingError? at h
    cases hfault : (n.next t).fault? with
    | some fault =>
      rw [hfault] at h
      obtain rfl := Option.some.inj h
      exact ⟨fault, 0, Nesting.ofNesting_of_fault? hfault, Nat.zero_lt_succ _, rfl⟩
    | none =>
      rw [hfault] at h
      obtain ⟨fault, k, hnesting, hk, rfl⟩ := ih h
      refine ⟨fault, k + 1, hnesting, Nat.succ_lt_succ hk, ?_⟩
      rw [Nat.add_right_comm, Nat.add_assoc]

theorem template_eq_of_nestingError? {tokens : List Token} {e : ParseError Fault}
    (h : nestingError? .none 0 tokens = some e) : template tokens = .error e := by
  unfold template templateWith
  rw [h]

theorem template_eq_error_of_deep {tokens : List Token} {ss : List Statement}
    (hbody : body tokens 0 = .ok (tokens.length, ss))
    (hdepth : Template.depthLimit < (Template.ofStatements ss).nestingDepth) :
    ∃ fault pos, fault.OfNesting ∧ pos < tokens.length ∧
      template tokens = .error (.failure fault pos) := by
  have hiff := (body_eq_ok_iff.1 hbody).nestingError?_eq_none_iff
  cases hnesting : nestingError? .none 0 tokens with
  | none =>
    have := hiff.1 hnesting
    omega
  | some e =>
    obtain ⟨fault, k, hfault, hk, rfl⟩ := exists_of_nestingError? hnesting
    rw [Nat.zero_add] at hnesting
    exact ⟨fault, k, hfault, hk, template_eq_of_nestingError? hnesting⟩

theorem exists_template_eq_ok_iff {tokens : List Token} {ss : List Statement} :
    (∃ t, template tokens = .ok t ∧ t.statements = ss) ↔
      body tokens 0 = .ok (tokens.length, ss) ∧
        (Template.ofStatements ss).nestingDepth ≤ Template.depthLimit := by
  rw [body_eq_ok_iff]
  constructor
  · rintro ⟨t, ht, rfl⟩
    obtain ⟨hnesting, hss, -⟩ := template_eq_ok.1 ht
    exact ⟨hss, hss.nestingError?_eq_none_iff.1 hnesting⟩
  · rintro ⟨hss, hdepth⟩
    exact ⟨.ofStatements ss, template_eq_ok.2 ⟨hss.nestingError?_eq_none_iff.2 hdepth, hss, rfl⟩,
      rfl⟩

end Grammar

open Grammar Render

/-! ## Compiled templates -/

theorem Template.nestingDepth_of_parse {source : String} {t : Template}
    (h : Template.parse source = .ok t) : t.nestingDepth ≤ Template.depthLimit := by
  obtain ⟨lexemes, -, htemplate⟩ := Template.parse_eq_ok.1 h
  have hdepth := (exists_template_eq_ok_iff.1 ⟨t, htemplate, rfl⟩).2
  rw [Template.nestingDepth_eq] at hdepth ⊢
  exact hdepth

theorem Engine.compile_eq_ok {engine : Engine} {source : String} {c : Compiled} :
    engine.compile source = .ok c ↔
      Template.parse source = .ok c.tree ∧ c.evaluator = engine.evaluator := by
  unfold Engine.compile Engine.bind
  rw [map_eq_ok]
  constructor
  · rintro ⟨t, ht, rfl⟩
    exact ⟨ht, rfl⟩
  · rintro ⟨ht, hevaluator⟩
    exact ⟨c.tree, ht, by rw [← hevaluator]⟩

theorem Template.render_of_parse {σ : Type} {source : String} {t : Template}
    (h : Template.parse source = .ok t) (env : Environment σ) (context : Value) :
    t.render env context = Statement.renderAll env t.statements context :=
  Template.render_eq_renderAll env (Template.version_of_parse h) (Template.nestingDepth_of_parse h)
    context

/-- **Two depths that agree.** Tokens make up a template just if they are read as a body to their
end and the tree of its statements is at most 128 deep. They are refused for their nesting if it is
deeper. What is compiled is never refused for its version or its depth when it is rendered, whatever
the helpers and the context are. -/
theorem Grammar.template_eq_ok_iff_body_shallow (tokens : List Token) (ss : List Statement) :
    ((∃ t, template tokens = .ok t ∧ t.statements = ss) ↔
      body tokens 0 = .ok (tokens.length, ss) ∧ (Template.ofStatements ss).nestingDepth ≤ 128) ∧
    (body tokens 0 = .ok (tokens.length, ss) → 128 < (Template.ofStatements ss).nestingDepth →
      ∃ fault pos, (fault = .blocksTooDeep ∨ fault = .callsTooDeep) ∧ pos < tokens.length ∧
        template tokens = .error (.failure fault pos)) ∧
    (∀ (engine : Engine) (source : String) (c : Compiled), engine.compile source = .ok c →
      ∀ (σ : Type) (env : Environment σ) (context : Value) (state : σ),
        (∀ version, (runFrom (c.tree.render env context) state).1 ≠
          .error (.unsupportedVersion version)) ∧
        (∀ depth, (runFrom (c.tree.render env context) state).1 ≠
          .error (.nestingTooDeep depth))) := by
  refine ⟨exists_template_eq_ok_iff, fun hbody hdepth => ?_, ?_⟩
  · obtain ⟨fault, pos, hfault, hpos, htemplate⟩ := template_eq_error_of_deep hbody hdepth
    refine ⟨fault, pos, ?_, hpos, htemplate⟩
    cases hfault with
    | blocks => exact .inl rfl
    | calls => exact .inr rfl
  · intro engine source c hcompile σ env context state
    rw [Template.render_of_parse (Engine.compile_eq_ok.1 hcompile).1]
    have honly := Statement.failsOnly_renderAll env c.tree.statements context state
    constructor
    · intro version hversion
      cases honly _ hversion
    · intro depth hdepth
      cases honly _ hdepth

/-- With 129 blocks in each other, one more than are allowed, a body is read that is no template. -/
theorem Grammar.template_nestedBlocks_refused :
    ∃ tokens fault pos, body tokens 0 = .ok (tokens.length, nestedBlocks 129) ∧
      128 < (Template.ofStatements (nestedBlocks 129)).nestingDepth ∧
      (fault = .blocksTooDeep ∨ fault = .callsTooDeep) ∧
      template tokens = .error (.failure fault pos) := by
  obtain ⟨lexemes, -, hderives⟩ := Statement.scan_source (writable_nestedBlocks true 129)
  have hbody := body_eq_ok_iff.2 hderives
  have hdepth : 128 < (Template.ofStatements (nestedBlocks 129)).nestingDepth := by
    rw [Template.nestingDepth_eq]
    show 128 < max (Statement.blockDepths (nestedBlocks 129)) _
    rw [blockDepths_nestedBlocks]
    omega
  obtain ⟨fault, pos, hfault, -, htemplate⟩ :=
    (template_eq_ok_iff_body_shallow _ _).2.1 hbody hdepth
  exact ⟨_, fault, pos, hbody, hdepth, hfault, htemplate⟩

end Stencil
