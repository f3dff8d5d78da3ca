import Stencil.Proofs.Grammar.Depth
import Stencil.Proofs.Grammar.Joining
import Stencil.Proofs.Render.Sequence

/-!
# Composition

`Template.parse_append`: a source that is put together from two is a template if both are, and it
renders what the two of them render, one after the other.
-/

namespace Stencil

open Grammar Lexeme Render

/-! ## Joined sources -/

theorem Lexeme.exists_scan_append {s₁ s₂ : String} {lexemes₁ lexemes₂ : List Lexeme}
    (h₁ : scan s₁ = .ok lexemes₁) (h₂ : scan s₂ = .ok lexemes₂)
    (hapart : Token.Apart s₁.toList s₂.toList) (hlong : LongCommentsClose false s₁.toList) :
    ∃ lexemes, scan (s₁ ++ s₂) = .ok lexemes ∧ lexemes.map Lexeme.token =
      joined Token.merge? (lexemes₁.map Lexeme.token) (lexemes₂.map Lexeme.token) := by
  have hscans₁ := (scan_eq_ok_iff s₁ _).1 ⟨lexemes₁, h₁, rfl⟩
  have hscans₂ := (scan_eq_ok_iff s₂ _).1 ⟨lexemes₂, h₂, rfl⟩
  have hscans := hscans₁.joined hlong hapart hscans₂
  rw [← String.toList_append] at hscans
  exact (scan_eq_ok_iff _ _).2 hscans

theorem Template.parse_eq_ok_joined {s₁ s₂ : String} {t₁ t₂ : Template}
    (h₁ : Template.parse s₁ = .ok t₁) (h₂ : Template.parse s₂ = .ok t₂)
    (hapart : Token.Apart s₁.toList s₂.toList) (hlong : LongCommentsClose false s₁.toList) :
    Template.parse (s₁ ++ s₂) =
      .ok (.ofStatements (joined Statement.merge? t₁.statements t₂.statements)) := by
  obtain ⟨lexemes₁, hscan₁, htemplate₁⟩ := Template.parse_eq_ok.1 h₁
  obtain ⟨lexemes₂, hscan₂, htemplate₂⟩ := Template.parse_eq_ok.1 h₂
  obtain ⟨lexemes, hscan, htokens⟩ := exists_scan_append hscan₁ hscan₂ hapart hlong
  have hderives := (template_eq_ok.1 htemplate₁).2.1.joined (template_eq_ok.1 htemplate₂).2.1
  refine Template.parse_eq_ok.2 ⟨lexemes, hscan, ?_⟩
  rw [htokens]
  refine template_eq_ok.2 ⟨hderives.nestingError?_eq_none_iff.2 ?_, hderives, rfl⟩
  rw [Template.nestingDepth_joined]
  have hdepth₁ := (exists_template_eq_ok_iff.1 ⟨t₁, htemplate₁, rfl⟩).2
  have hdepth₂ := (exists_template_eq_ok_iff.1 ⟨t₂, htemplate₂, rfl⟩).2
  exact Nat.max_le.2 ⟨hdepth₁, hdepth₂⟩

/-- What is compiled renders as its statements do. -/
theorem Workspace.render_of_compile {σ : Type} {engine : Engine} {source : String} {c : Compiled}
    {t : Template} (hcompile : engine.compile source = .ok c)
    (hparse : Template.parse source = .ok t) (w : Workspace σ) (context : Value) :
    w.render c context = Statement.renderAll (w.environment engine) t.statements context := by
  obtain ⟨htree, hevaluator⟩ := Engine.compile_eq_ok.1 hcompile
  obtain rfl : c.tree = t := Except.ok.inj (htree.symm.trans hparse)
  rw [Workspace.render, hevaluator]
  exact Template.render_of_parse hparse _ context

/-- **Composition.** Two sources that are templates, without opening braces across their seam and
without a comment in the first one that opens with two dashes and lacks the longer closing, are
together the template with the statements of both, where texts at the seam are one text. It renders
the output of the first and then that of the second, which begins with the state that the first one
left, or it ends with the first of their errors. -/
theorem Template.parse_append (s₁ s₂ : String) (t₁ t₂ : Template)
    (h₁ : Template.parse s₁ = .ok t₁) (h₂ : Template.parse s₂ = .ok t₂)
    (hbraces : ¬ (s₁.toList.getLast? = some '{' ∧ s₂.toList.head? = some '{'))
    (hlong : LongCommentsClose false s₁.toList) :
    Template.parse (s₁ ++ s₂) =
      .ok (.ofStatements (joined Statement.merge? t₁.statements t₂.statements)) ∧
    ∀ (σ : Type) (w : Workspace σ) (engine : Engine) (c₁ c₂ c : Compiled),
      engine.compile s₁ = .ok c₁ → engine.compile s₂ = .ok c₂ →
      engine.compile (s₁ ++ s₂) = .ok c → ∀ (context : Value) (state : σ),
        runFrom (w.render c context) state =
          match runFrom (w.render c₁ context) state with
          | (.ok first, middle) =>
            match runFrom (w.render c₂ context) middle with
            | (.ok rest, last) => (.ok (first ++ rest), last)
            | (.error e, last) => (.error e, last)
          | (.error e, middle) => (.error e, middle) := by
  have hparse := Template.parse_eq_ok_joined h₁ h₂ (fun hlast hfirst => hbraces ⟨hlast, hfirst⟩)
    hlong
  refine ⟨hparse, fun σ w engine c₁ c₂ c hc₁ hc₂ hc context state => ?_⟩
  rw [Workspace.render_of_compile hc hparse, Workspace.render_of_compile hc₁ h₁,
    Workspace.render_of_compile hc₂ h₂]
  exact (congrArg (runFrom · state) (Statement.renderAll_joined _ _ _ context)).trans
    (runFrom_followedBy _ _ state)

/-- A text across the seam, behind a comment that has to be closed by dashes and braces. -/
theorem Template.parse_append_text :
    Template.parse ("\x7b\x7b!-- \x7d\x7d --\x7d\x7da" ++ "b\x7b\x7bx\x7d\x7d") =
      .ok (.ofStatements [.comment "\x7d\x7d", .text "ab", .interpolation (.path ["x"])]) := by
  have hlong : LongCommentsClose false "\x7b\x7b!-- \x7d\x7d --\x7d\x7da".toList := by
    refine longCommentsClose_of_isSuffix fun more hmore => ?_
    have hmore : more = [' ', '}', '}', ' ', '-', '-', '}', '}', 'a'] := by
      simpa [List.suffix_cons_iff] using hmore
    rw [hmore]
    decide
  exact (Template.parse_append "\x7b\x7b!-- \x7d\x7d --\x7d\x7da" "b\x7b\x7bx\x7d\x7d"
    (.ofStatements [.comment "\x7d\x7d", .text "a"])
    (.ofStatements [.text "b", .interpolation (.path ["x"])]) (by rfl) (by rfl) (by decide) hlong).1

-- braces that meet open a marker, and a comment goes on to where dashes close it
example : (Template.parse "\x7b").isOk ∧ (Template.parse ("\x7b" ++ "\x7b")).isOk = false := by
  decide

example : (Template.parse ("\x7b\x7b!--\x7d\x7d" ++ "--\x7d\x7d")).map Template.statements =
    .ok [.comment "\x7d\x7d"] := by
  rfl

end Stencil
