import Stencil.Grammar.Template

/-!
# The grammar as derivations

Which tokens stand for which tree, said without a parser: no order of alternatives, no greed and
no positions. A derivation splits the tokens along the tree.

    body       = statement*
    statement  = text | comment | {{ expression }} | block
    block      = {{# expression }} body [{{else}} body] {{/ path }}
    expression = name (ws argument)+ | literal | path
    argument   = literal | path | ( name (ws argument)* )
    path       = name (. name)*

A block may open with `{{^` instead, and at most one token of blanks stands behind an opener or a
left parenthesis and before a closer or a right one.
-/

namespace Stencil.Grammar

/-- At most one token of blanks. -/
inductive IsBlank : List Token → Prop
  | none : IsBlank []
  | one (blanks : String) : IsBlank [.whitespace blanks]

/-! ## Expressions -/

inductive DerivesPath : List Token → List String → Prop
  | one (name : String) : DerivesPath [.identifier name] [name]
  | cons (name : String) {ts : List Token} {names : List String} :
    DerivesPath ts names → DerivesPath (.identifier name :: .dot :: ts) (name :: names)

mutual

inductive DerivesArgument : List Token → Expression → Prop
  | literal (value : String) : DerivesArgument [.literal value] (.literal value)
  | path {ts : List Token} {names : List String} :
    DerivesPath ts names → DerivesArgument ts (.path names)
  | call (name : String) {bs ts cs : List Token} {es : List Expression} :
    IsBlank bs → DerivesArguments ts es → IsBlank cs →
    DerivesArgument (.leftParen :: (bs ++ (.identifier name :: ts) ++ (cs ++ [.rightParen])))
      (.call name es)

/-- Each argument has blanks before it. -/
inductive DerivesArguments : List Token → List Expression → Prop
  | nil : DerivesArguments [] []
  | cons (blanks : String) {ts us : List Token} {e : Expression} {es : List Expression} :
    DerivesArgument ts e → DerivesArguments us es →
    DerivesArguments (.whitespace blanks :: ts ++ us) (e :: es)

end

inductive DerivesExpression : List Token → Expression → Prop
  | call (name : String) {ts : List Token} {es : List Expression} :
    DerivesArguments ts es → es ≠ [] → DerivesExpression (.identifier name :: ts) (.call name es)
  | literal (value : String) : DerivesExpression [.literal value] (.literal value)
  | path {ts : List Token} {names : List String} :
    DerivesPath ts names → DerivesExpression ts (.path names)

/-! ## Tags -/

/-- `marker`, then `inside` with optional blanks around it, then the closer. -/
inductive IsTag (marker : Marker) (inside : List Token) : List Token → Prop
  | mk {bs cs : List Token} : IsBlank bs → IsBlank cs →
    IsTag marker inside (.opener marker :: (bs ++ (inside ++ (cs ++ [.closer]))))

def IsElseTag (ts : List Token) : Prop :=
  IsTag .interpolation [.identifier "else"] ts

/-- The closing tag of blocks called `name`. -/
def IsCloseTag (name : String) (ts : List Token) : Prop :=
  ∃ us names, DerivesPath us names ∧ IsTag .blockClose us ts ∧ ".".intercalate names = name

/-- The openers of blocks, and whether they negate. -/
inductive OpensBlock : Marker → Bool → Prop
  | plain : OpensBlock .blockOpen false
  | negated : OpensBlock .invertedOpen true

/-! ## Statements -/

mutual

inductive DerivesStatement : List Token → Statement → Prop
  | text (value : String) : DerivesStatement [.text value] (.text value)
  | comment (value : String) : DerivesStatement [.comment value] (.comment value)
  | interpolation {ts us : List Token} {e : Expression} :
    IsTag .interpolation us ts → DerivesExpression us e → ¬ IsElseTag ts →
    DerivesStatement ts (.interpolation e)
  | block {marker : Marker} {negated : Bool} {us opening ts vs closing : List Token}
    {e : Expression} {body : List Statement} {elseBody : Option (List Statement)} :
    OpensBlock marker negated → IsTag marker us opening → DerivesExpression us e →
    DerivesBody ts body → DerivesElse vs elseBody → IsCloseTag e.blockName closing →
    DerivesStatement (opening ++ (ts ++ (vs ++ closing))) (.block e negated body elseBody)

inductive DerivesBody : List Token → List Statement → Prop
  | nil : DerivesBody [] []
  | cons {ts us : List Token} {s : Statement} {ss : List Statement} :
    DerivesStatement ts s → DerivesBody us ss → DerivesBody (ts ++ us) (s :: ss)

/-- The else tag and the statements behind it, or nothing. -/
inductive DerivesElse : List Token → Option (List Statement) → Prop
  | none : DerivesElse [] .none
  | some {tag ts : List Token} {ss : List Statement} :
    IsElseTag tag → DerivesBody ts ss → DerivesElse (tag ++ ts) (.some ss)

end

/-! ## Closers -/

/-- No closer stands in the tokens. -/
def Unclosed (ts : List Token) : Prop := .closer ∉ ts

theorem IsBlank.unclosed {ts : List Token} (h : IsBlank ts) : Unclosed ts := by
  unfold Unclosed
  cases h <;> simp

theorem DerivesPath.unclosed {ts : List Token} {names : List String} (h : DerivesPath ts names) :
    Unclosed ts := by
  unfold Unclosed
  induction h with
  | one name => simp
  | cons name _ ih => simpa using ih

mutual

theorem DerivesArgument.unclosed {ts : List Token} {e : Expression} :
    DerivesArgument ts e → Unclosed ts
  | .literal value => by simp [Unclosed]
  | .path h => h.unclosed
  | .call name hb h hc => by
    have := hb.unclosed
    have := h.unclosed
    have := hc.unclosed
    simp_all [Unclosed]

theorem DerivesArguments.unclosed {ts : List Token} {es : List Expression} :
    DerivesArguments ts es → Unclosed ts
  | .nil => by simp [Unclosed]
  | .cons blanks h hs => by
    have := h.unclosed
    have := hs.unclosed
    simp_all [Unclosed]

end

theorem DerivesExpression.unclosed {ts : List Token} {e : Expression}
    (h : DerivesExpression ts e) : Unclosed ts := by
  cases h with
  | call name h _ => simpa [Unclosed] using h.unclosed
  | literal value => simp [Unclosed]
  | path h => exact h.unclosed

/-- What stands before the first closer is determined. -/
theorem Unclosed.append_cons_inj {ts us vs ws : List Token} (hts : Unclosed ts) (hus : Unclosed us)
    (h : ts ++ .closer :: vs = us ++ .closer :: ws) : ts = us ∧ vs = ws := by
  induction ts generalizing us with
  | nil =>
    cases us with
    | nil => simpa using h
    | cons t us =>
      rw [List.nil_append, List.cons_append, List.cons.injEq] at h
      exact absurd (h.1 ▸ List.mem_cons_self) hus
  | cons t ts ih =>
    cases us with
    | nil =>
      rw [List.nil_append, List.cons_append, List.cons.injEq] at h
      exact absurd (h.1 ▸ List.mem_cons_self) hts
    | cons u us =>
      rw [List.cons_append, List.cons_append, List.cons.injEq] at h
      obtain ⟨rfl, h⟩ := h
      obtain ⟨rfl, rfl⟩ := ih (fun hmem => hts (List.mem_cons_of_mem t hmem))
        (fun hmem => hus (List.mem_cons_of_mem t hmem)) h
      exact ⟨rfl, rfl⟩

theorem IsTag.subset {marker : Marker} {inside ts : List Token} (h : IsTag marker inside ts) :
    inside ⊆ ts := by
  obtain ⟨-, -⟩ := h
  intro t ht
  simp [ht]

/-- A tag is an unclosed list and a closer. -/
theorem IsTag.exists_unclosed {marker : Marker} {inside ts : List Token}
    (h : IsTag marker inside ts) (hinside : Unclosed inside) :
    ∃ us, Unclosed us ∧ ts = us ++ [.closer] := by
  obtain ⟨hb, hc⟩ := h
  rename_i bs cs
  have := hb.unclosed
  have := hc.unclosed
  refine ⟨.opener marker :: (bs ++ (inside ++ cs)), ?_, by simp⟩
  simp_all [Unclosed]

end Stencil.Grammar
