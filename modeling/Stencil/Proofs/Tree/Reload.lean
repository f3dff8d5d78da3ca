import Stencil.Proofs.Tree.Persistence
import Stencil.Proofs.Tree.ReadBack

/-!
# Parsed templates in documents

A parsed template is read back from its document just if the containers of the document fit the
reader (`Template.reload_iff`). The parser allows more: blocks inside each other take two
containers each, so that from 63 of them on a template is parsed that cannot be read back
(`nestedBlocks_parse`, `nesting_nestedBlocks`).
-/

namespace Stencil

open Stencil.Grammar Stencil.Json

theorem Template.version_of_parse {source : String} {t : Template}
    (h : Template.parse source = .ok t) : t.version = Template.currentVersion := by
  obtain ⟨lexemes, -, htemplate⟩ := Template.parse_eq_ok.1 h
  exact (template_eq_ok.1 htemplate).2.2

/-- **Parsed templates in documents.** A parsed template is read back from its document if and only
if fewer than 128 containers stand inside each other there. -/
theorem Template.reload_iff (source : String) (t : Template) (h : Template.parse source = .ok t) :
    Template.ofDocument t.document = .ok t ↔ t.toJson.nesting < 128 := by
  have hversion : t.version = 1 := Template.version_of_parse h
  rw [Template.ofDocument_document_iff]
  constructor
  · intro hstorable
    exact hstorable.nesting
  · intro hnesting
    exact ⟨by omega, by omega, hnesting⟩

/-! ## Blocks in blocks -/

/-- So many blocks inside each other, the innermost without a body. -/
def nestedBlocks : Nat → List Statement
  | 0 => []
  | n + 1 => [.block (.path ["a"]) false (nestedBlocks n) none]

theorem writable_nestedBlocks (final : Bool) (n : Nat) :
    Statement.AllWritable final (nestedBlocks n) := by
  induction n generalizing final with
  | zero => trivial
  | succ n ih =>
    have hpath : IsPath ["a"] := by decide
    have ha : Expression.Writable (.path ["a"]) := ⟨hpath, by simp⟩
    exact ⟨⟨ha, trivial, ih false, trivial⟩, trivial, trivial⟩

theorem blockDepths_nestedBlocks (n : Nat) : Statement.blockDepths (nestedBlocks n) = n := by
  induction n with
  | zero => rfl
  | succ n ih =>
    simp only [nestedBlocks, Statement.blockDepths, Statement.blockDepth,
      Statement.elseBlockDepth, ih]
    omega

theorem callDepths_nestedBlocks (n : Nat) : Statement.callDepths (nestedBlocks n) = 0 := by
  induction n with
  | zero => rfl
  | succ n ih =>
    simp only [nestedBlocks, Statement.callDepths, Statement.callDepth, Statement.elseCallDepth,
      Expression.callDepth, ih]
    omega

theorem nestedBlocks_parse {n : Nat} (h : n ≤ 128) :
    Template.parse (Statement.source (nestedBlocks n)) =
      .ok (Template.ofStatements (nestedBlocks n)) := by
  obtain ⟨lexemes, hlexemes, hderives⟩ := Statement.scan_source (writable_nestedBlocks true n)
  have hdepth : (Template.ofStatements (nestedBlocks n)).nestingDepth ≤ Template.depthLimit := by
    rw [Template.nestingDepth_eq]
    show max (Statement.blockDepths (nestedBlocks n)) (Statement.callDepths (nestedBlocks n)) ≤ 128
    rw [blockDepths_nestedBlocks, callDepths_nestedBlocks, Nat.max_zero]
    exact h
  exact Template.parse_eq_ok.2 ⟨lexemes, hlexemes,
    template_eq_ok.2 ⟨hderives.nestingError?_eq_none_iff.2 hdepth, hderives, rfl⟩⟩

theorem nestingItems_nestedBlocks (n : Nat) :
    nestingItems (Statement.listToJson (nestedBlocks (n + 1))) = 2 * n + 3 := by
  induction n with
  | zero => rfl
  | succ n ih =>
    have hpath : (Expression.path ["a"]).toJson.nesting = 2 := rfl
    rw [nestedBlocks, Statement.listToJson, Statement.listToJson, nestingItems, nestingItems,
      Statement.toJson, nesting_node, Statement.elseToJson]
    simp only [List.append_nil, nestingEntries, Json.nesting, hpath]
    rw [ih]
    omega

/-- Two containers for each block, and three for the template and the innermost expression. -/
theorem nesting_nestedBlocks (n : Nat) :
    (Template.ofStatements (nestedBlocks (n + 1))).toJson.nesting = 2 * n + 5 := by
  rw [Template.toJson, nesting_node]
  simp only [nestingEntries, Json.nesting, Template.ofStatements]
  rw [nestingItems_nestedBlocks]
  omega

/-- A block in a block is read back. -/
theorem Template.reload_nestedBlocks_two :
    Template.ofDocument (Template.ofStatements (nestedBlocks 2)).document =
      .ok (Template.ofStatements (nestedBlocks 2)) := by
  refine (Template.reload_iff (Statement.source (nestedBlocks 2)) _
    (nestedBlocks_parse (by omega))).2 ?_
  rw [nesting_nestedBlocks]
  omega

/-- With 63 blocks in each other, half of what the parser allows, nothing is read back. -/
theorem Template.reload_nestedBlocks_fails :
    Template.parse (Statement.source (nestedBlocks 63)) =
      .ok (Template.ofStatements (nestedBlocks 63)) ∧
    Template.ofDocument (Template.ofStatements (nestedBlocks 63)).document ≠
      .ok (Template.ofStatements (nestedBlocks 63)) := by
  refine ⟨nestedBlocks_parse (by omega), fun h => ?_⟩
  have hnesting := (Template.storable_of_ofDocument h).nesting
  rw [nesting_nestedBlocks] at hnesting
  omega

end Stencil
