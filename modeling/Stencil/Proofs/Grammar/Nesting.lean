import Stencil.Proofs.Grammar.Derivation
import Stencil.Proofs.Tree.Depth

/-!
# The nesting of tokens is that of the tree

`DerivesBody.nestingError?_eq_none_iff`: of the tokens that derive a tree, the scan for nesting
refuses just those whose tree is too deep.

The scan counts open blocks and parentheses. Every derivation leaves both counts as it found them,
and passes the scan exactly if what it derives is not too deep for the counts it starts from. A
parenthesis is one call deeper than its count, for the outermost call of an expression has none.
-/

namespace Stencil.Grammar

namespace Nesting

def after (n : Nesting) (ts : List Token) : Nesting :=
  ts.foldl next n

/-- Neither count is beyond its limit. -/
def Shallow (n : Nesting) : Prop :=
  n.blocks ≤ Template.depthLimit ∧ n.calls < Template.depthLimit

theorem shallow_mk {blocks calls : Nat} :
    Shallow ⟨blocks, calls⟩ ↔ blocks ≤ Template.depthLimit ∧ calls < Template.depthLimit :=
  Iff.rfl

theorem fault?_eq_none_iff {n : Nesting} : n.fault? = .none ↔ n.Shallow := by
  unfold fault? Shallow
  split
  · simp only [reduceCtorEq, false_iff]
    omega
  · split
    · simp only [reduceCtorEq, false_iff]
      omega
    · simp only [true_iff]
      omega

/-- The scan from `n` finds nothing too deep. -/
def Allows (n : Nesting) : List Token → Prop
  | [] => True
  | t :: ts => (n.next t).Shallow ∧ (n.next t).Allows ts

theorem allows_cons (n : Nesting) (t : Token) (ts : List Token) :
    n.Allows (t :: ts) ↔ (n.next t).Shallow ∧ (n.next t).Allows ts :=
  Iff.rfl

theorem allows_append (n : Nesting) (ts us : List Token) :
    n.Allows (ts ++ us) ↔ n.Allows ts ∧ (n.after ts).Allows us := by
  induction ts generalizing n with
  | nil => exact ⟨fun h => ⟨trivial, h⟩, fun h => h.2⟩
  | cons t ts ih =>
    rw [List.cons_append, allows_cons, allows_cons, ih, and_assoc]
    rfl

theorem nestingError?_eq_none_iff {n : Nesting} {pos : Nat} {ts : List Token} :
    nestingError? n pos ts = .none ↔ n.Allows ts := by
  induction ts generalizing n pos with
  | nil => exact ⟨fun _ => trivial, fun _ => rfl⟩
  | cons t ts ih =>
    unfold nestingError?
    have ih := @ih (n.next t) (pos + 1)
    rw [allows_cons, ← fault?_eq_none_iff, ← ih]
    cases (n.next t).fault? with
    | none => exact ⟨fun h => ⟨rfl, h⟩, fun h => h.2⟩
    | some fault => simp

/-! ## Passing the scan -/

/-- The tokens leave the counts at `n`, and pass the scan from there exactly if `P` holds. -/
def Passes (n : Nesting) (ts : List Token) (P : Prop) : Prop :=
  n.after ts = n ∧ (n.Shallow → (n.Allows ts ↔ P))

section Passes

variable {n m : Nesting} {ts us : List Token} {P Q : Prop}

theorem Passes.congr (h : n.Passes ts P) (hPQ : n.Shallow → (P ↔ Q)) : n.Passes ts Q :=
  ⟨h.1, fun hn => (h.2 hn).trans (hPQ hn)⟩

theorem Passes.nil : n.Passes [] True :=
  ⟨rfl, fun _ => Iff.rfl⟩

theorem Passes.append (ht : n.Passes ts P) (hu : n.Passes us Q) : n.Passes (ts ++ us) (P ∧ Q) := by
  refine ⟨?_, fun hn => ?_⟩
  · show (ts ++ us).foldl next n = n
    rw [List.foldl_append]
    exact (congrArg (us.foldl next) ht.1).trans hu.1
  · rw [allows_append, ht.1, ht.2 hn, hu.2 hn]

/-- A token that changes no count passes. -/
theorem Passes.one {t : Token} (ht : n.next t = n) : n.Passes [t] True := by
  refine ⟨ht, fun hn => ?_⟩
  rw [allows_cons, ht]
  exact ⟨fun _ => trivial, fun _ => ⟨hn, trivial⟩⟩

theorem Passes.cons {t : Token} (ht : n.next t = n) (h : n.Passes ts P) : n.Passes (t :: ts) P :=
  ((Passes.one ht).append h).congr fun _ => by rw [true_and]

/-- Between two tokens that raise a count and lower it again. -/
theorem Passes.between {t u : Token} (ht : n.next t = m) (hu : m.next u = n) (h : m.Passes ts P) :
    n.Passes (t :: (ts ++ [u])) (m.Shallow ∧ P) := by
  have hafter : m.after (ts ++ [u]) = n := by
    show (ts ++ [u]).foldl next m = n
    rw [List.foldl_append]
    exact (congrArg ([u].foldl next) h.1).trans hu
  refine ⟨?_, fun hn => ?_⟩
  · show (n.next t).after (ts ++ [u]) = n
    rw [ht, hafter]
  · rw [allows_cons, ht, allows_append, h.1, allows_cons, hu]
    constructor
    · rintro ⟨hm, hts, -⟩
      exact ⟨hm, (h.2 hm).1 hts⟩
    · rintro ⟨hm, hP⟩
      exact ⟨hm, (h.2 hm).2 hP, hn, trivial⟩

theorem passes_blank (hb : IsBlank ts) : n.Passes ts True := by
  cases hb with
  | none => exact .nil
  | one blanks => exact .one rfl

theorem passes_path {names : List String} (h : DerivesPath ts names) : n.Passes ts True := by
  induction h with
  | one name => exact .one rfl
  | cons name _ ih => exact .cons rfl (.cons rfl ih)

end Passes

end Nesting

open Nesting

/-! ## Expressions -/

mutual

theorem DerivesArgument.passes {ts : List Token} {e : Expression} :
    DerivesArgument ts e → ∀ blocks calls,
      Passes ⟨blocks, calls⟩ ts (calls + e.callDepth < Template.depthLimit)
  | .literal value, blocks, calls =>
    (Passes.one rfl).congr fun hn => iff_of_true trivial hn.2
  | .path h, blocks, calls =>
    (passes_path h).congr fun hn => iff_of_true trivial hn.2
  | .call name hb h hc, blocks, calls => by
    have hname := Passes.cons (t := .identifier name) rfl (h.passes blocks (calls + 1))
    have hinside := ((passes_blank hb).append hname).append (passes_blank hc)
    have hcall := Passes.between (n := ⟨blocks, calls⟩) (m := ⟨blocks, calls + 1⟩)
      (t := .leftParen) (u := .rightParen) rfl rfl hinside
    rw [List.append_assoc] at hcall
    refine hcall.congr fun hn => ?_
    rw [shallow_mk] at hn
    rw [shallow_mk, Expression.callDepth, true_and, and_true]
    omega

theorem DerivesArguments.passes {ts : List Token} {es : List Expression} :
    DerivesArguments ts es → ∀ blocks calls,
      Passes ⟨blocks, calls⟩ ts (calls + Expression.callDepths es < Template.depthLimit)
  | .nil, blocks, calls => Passes.nil.congr fun hn => iff_of_true trivial hn.2
  | .cons blanks h hs, blocks, calls => by
    have hfirst := Passes.cons (t := .whitespace blanks) rfl (h.passes blocks calls)
    refine (hfirst.append (hs.passes blocks calls)).congr fun hn => ?_
    rw [Expression.callDepths]
    omega

end

theorem DerivesExpression.passes {ts : List Token} {e : Expression} (h : DerivesExpression ts e)
    (blocks : Nat) : Passes ⟨blocks, 0⟩ ts (e.callDepth ≤ Template.depthLimit) := by
  cases h with
  | call name h _ =>
    refine (Passes.cons (t := .identifier name) rfl (h.passes blocks 0)).congr fun _ => ?_
    rw [Expression.callDepth]
    omega
  | literal value => exact (Passes.one rfl).congr fun _ => iff_of_true trivial (Nat.zero_le _)
  | path h => exact (passes_path h).congr fun _ => iff_of_true trivial (Nat.zero_le _)

/-! ## Statements -/

/-- What stands inside of a tag and its closer, outside of all parentheses. -/
theorem IsTag.passes {marker : Marker} {us ts : List Token} (h : IsTag marker us ts)
    (blocks : Nat) {P : Prop} (hus : Passes ⟨blocks, 0⟩ us P) :
    ∃ vs, ts = .opener marker :: vs ∧ Passes ⟨blocks, 0⟩ vs P := by
  obtain ⟨hb, hc⟩ := h
  refine ⟨_, rfl, ((passes_blank hb).append (hus.append ((passes_blank hc).append
    (.one rfl)))).congr fun _ => ?_⟩
  simp only [true_and, and_true]

theorem OpensBlock.next {marker : Marker} {negated : Bool} (h : OpensBlock marker negated)
    (blocks : Nat) : Nesting.next ⟨blocks, 0⟩ (.opener marker) = ⟨blocks + 1, 0⟩ := by
  cases h <;> rfl

mutual

theorem DerivesStatement.passes {ts : List Token} {s : Statement} :
    DerivesStatement ts s → ∀ blocks, Passes ⟨blocks, 0⟩ ts
      (blocks + s.blockDepth ≤ Template.depthLimit ∧ s.callDepth ≤ Template.depthLimit)
  | .text value, blocks => by
    exact (Passes.one rfl).congr fun hn => iff_of_true trivial ⟨hn.1, Nat.zero_le _⟩
  | .comment value, blocks => by
    exact (Passes.one rfl).congr fun hn => iff_of_true trivial ⟨hn.1, Nat.zero_le _⟩
  | .interpolation htag he _, blocks => by
    obtain ⟨vs, rfl, hvs⟩ := htag.passes blocks (he.passes blocks)
    refine (Passes.cons (t := .opener .interpolation) rfl hvs).congr fun hn => ?_
    exact ⟨fun h => ⟨hn.1, h⟩, fun h => h.2⟩
  | .block (e := e) hopens htag he hbody helse hclose, blocks => by
    obtain ⟨us, rfl, hus⟩ := htag.passes (blocks + 1) (he.passes (blocks + 1))
    obtain ⟨ws, names, hws, hclosing, -⟩ := hclose
    obtain ⟨ws, rfl, hws⟩ := hclosing.passes blocks (passes_path hws)
    have hinside := hus.append ((hbody.passes (blocks + 1)).append (helse.passes (blocks + 1)))
    have hnext := hopens.next blocks
    have hblock := (Passes.between hnext rfl hinside (u := .opener .blockClose)).append hws
    simp only [List.cons_append, List.append_assoc, List.nil_append] at hblock ⊢
    refine hblock.congr fun hn => ?_
    rw [shallow_mk] at hn
    rw [shallow_mk, Statement.blockDepth, Statement.callDepth, and_true]
    omega

theorem DerivesBody.passes {ts : List Token} {ss : List Statement} :
    DerivesBody ts ss → ∀ blocks, Passes ⟨blocks, 0⟩ ts
      (blocks + Statement.blockDepths ss ≤ Template.depthLimit ∧
        Statement.callDepths ss ≤ Template.depthLimit)
  | .nil, blocks => Passes.nil.congr fun hn => iff_of_true trivial ⟨hn.1, Nat.zero_le _⟩
  | .cons h hs, blocks => by
    refine ((h.passes blocks).append (hs.passes blocks)).congr fun hn => ?_
    rw [Statement.blockDepths, Statement.callDepths]
    omega

theorem DerivesElse.passes {ts : List Token} {elseBody : Option (List Statement)} :
    DerivesElse ts elseBody → ∀ blocks, Passes ⟨blocks, 0⟩ ts
      (blocks + Statement.elseBlockDepth elseBody ≤ Template.depthLimit ∧
        Statement.elseCallDepth elseBody ≤ Template.depthLimit)
  | .none, blocks => Passes.nil.congr fun hn => iff_of_true trivial ⟨hn.1, Nat.zero_le _⟩
  | .some htag hbody, blocks => by
    obtain ⟨vs, rfl, hvs⟩ := htag.passes blocks (.one rfl)
    have htag := Passes.cons (t := .opener .interpolation) rfl hvs
    refine (htag.append (hbody.passes blocks)).congr fun hn => ?_
    rw [true_and]
    rfl

end

/-- Of derived tokens, those of the trees that are too deep are refused. -/
theorem DerivesBody.nestingError?_eq_none_iff {ts : List Token} {ss : List Statement}
    (h : DerivesBody ts ss) :
    nestingError? .none 0 ts = .none ↔
      (Template.ofStatements ss).nestingDepth ≤ Template.depthLimit := by
  have hstart : Nesting.none.Shallow := by
    unfold Nesting.Shallow
    decide
  have hpasses := (h.passes 0).2 hstart
  rw [Nesting.nestingError?_eq_none_iff, Template.nestingDepth_eq, Nat.max_le]
  unfold Template.ofStatements
  rw [Nat.zero_add] at hpasses
  exact hpasses

end Stencil.Grammar
