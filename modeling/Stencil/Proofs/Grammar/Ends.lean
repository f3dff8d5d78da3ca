import Stencil.Proofs.Grammar.Checker
import Stencil.Proofs.Grammar.Template

/-!
# Where bodies end

A body ends at an else tag, at a closing tag and at the end, and nowhere else
(`cases_of_goesOn_eq_false`). The rules read nothing from a marker but all of it, for whatever they
could read there ends at the first closer.
-/

namespace Stencil.Grammar

open Stencil.Parser

/-! ## Pieces where they stand -/

theorem IsBlockOpener.exists_head? {name : String} {ts : List Token} (h : IsBlockOpener name ts)
    (rest : List Token) :
    ∃ marker negated, OpensBlock marker negated ∧ (ts ++ rest).head? = some (.opener marker) := by
  obtain ⟨marker, negated, us, e, hopens, htag, -, -⟩ := h
  exact ⟨marker, negated, hopens, htag.exists_head? rest⟩

theorem Plays.exists_statement {ts : List Token} (h : Plays ts .plain) :
    ∃ s, DerivesStatement ts s := by
  cases h with
  | text value => exact ⟨_, .text value⟩
  | comment value => exact ⟨_, .comment value⟩
  | mustache hmustache helse =>
    obtain ⟨us, e, htag, he⟩ := hmustache
    exact ⟨_, .interpolation htag he helse⟩

/-- A tag that stands where a marker stands is that marker, for both end at the first closer. -/
theorem IsMarker.eq_of_isTag {ts read us rest more : List Token} {marker : Marker}
    (h : IsMarker ts) (htag : IsTag marker us read) (hus : Unclosed us)
    (heq : ts ++ rest = read ++ more) : read = ts := by
  cases h with
  | mk first hinside =>
    rename_i inside
    obtain ⟨vs, hvs, rfl⟩ := htag.exists_unclosed hus
    have hfirst : Unclosed (.opener first :: inside) := by simpa [Unclosed] using hinside
    rw [← List.cons_append, List.append_assoc, List.append_assoc] at heq
    rw [← List.cons_append, (hfirst.append_cons_inj hvs heq).1]

/-- Else tags, closing tags, mustaches and openers of blocks are read from a marker only if it is
one. -/
theorem IsMarker.elseTag_eq_error {ts rest input : List Token} {pos : Nat} (h : IsMarker ts)
    (helse : ¬ IsElseTag ts) (hdrop : input.drop pos = ts ++ rest) :
    ∃ e, elseTag input pos = .error e := by
  cases hres : elseTag input pos with
  | error e => exact ⟨e, rfl⟩
  | ok result =>
    obtain ⟨read, hread, -, htag⟩ := obeys_elseTag input pos _ _ hres
    have heq := h.eq_of_isTag htag (by simp [Unclosed]) (hdrop.symm.trans hread)
    exact absurd (heq ▸ htag) helse

theorem IsMarker.closeTag_eq_error {ts rest input : List Token} {pos : Nat} (h : IsMarker ts)
    (hclose : ∀ name, ¬ IsCloseTag name ts) (hdrop : input.drop pos = ts ++ rest) :
    ∃ e, closeTag input pos = .error e := by
  cases hres : closeTag input pos with
  | error e => exact ⟨e, rfl⟩
  | ok result =>
    obtain ⟨read, hread, -, hname⟩ := obeys_closeTag input pos _ _ hres
    obtain ⟨us, names, hus, htag, -⟩ := id hname
    have heq := h.eq_of_isTag htag hus.unclosed (hdrop.symm.trans hread)
    exact absurd (heq ▸ hname) (hclose _)

theorem IsMarker.interpolation_eq_error {ts rest input : List Token} {pos : Nat} (h : IsMarker ts)
    (hmustache : ¬ IsMustache ts) (hdrop : input.drop pos = ts ++ rest) (calls : Nat) :
    ∃ e, interpolation (expressionWithin beyond calls) input pos = .error e := by
  cases hres : interpolation (expressionWithin beyond calls) input pos with
  | error e => exact ⟨e, rfl⟩
  | ok result =>
    have hobeys : Obeys (interpolation (expressionWithin beyond calls))
        fun read _ => IsMustache read := by
      refine ((obeys_tag (obeys_expressionWithin calls)).map ?_).withContext _
      rintro read e ⟨us, htag, he⟩
      exact ⟨us, e, htag, he⟩
    obtain ⟨read, hread, -, us, e, htag, he⟩ := hobeys input pos _ _ hres
    have heq := h.eq_of_isTag htag he.unclosed (hdrop.symm.trans hread)
    exact absurd ⟨us, e, heq ▸ htag, he⟩ hmustache

theorem IsMarker.blockOpener_eq_error {ts rest input : List Token} {pos : Nat} (h : IsMarker ts)
    (hopener : ∀ name, ¬ IsBlockOpener name ts) (hdrop : input.drop pos = ts ++ rest)
    (calls : Nat) :
    ∃ e, withContext (blockOpener (expressionWithin beyond calls)) "section" input pos =
      .error e := by
  cases hres : withContext (blockOpener (expressionWithin beyond calls)) "section" input pos with
  | error e => exact ⟨e, rfl⟩
  | ok result =>
    have hobeys := (obeys_blockOpener (obeys_expressionWithin calls)).withContext "section"
    obtain ⟨read, hread, -, marker, us, hopens, htag, he⟩ := hobeys input pos _ _ hres
    have heq := h.eq_of_isTag htag he.unclosed (hdrop.symm.trans hread)
    exact absurd ⟨marker, _, us, _, hopens, heq ▸ htag, he, rfl⟩ (hopener _)

/-! ## Where bodies go on -/

theorem goesOn_of_eq_error {input : List Token} {pos : Nat} (hpos : pos < input.length)
    (hclose : ∃ e, closeTag input pos = .error e) (helse : ∃ e, elseTag input pos = .error e) :
    goesOn input pos = true :=
  goesOn_eq_true.2 ⟨hpos, applies_eq_false.2 hclose, applies_eq_false.2 helse⟩

theorem lt_length_of_drop_eq_cons {α : Type} {input rest : List α} {pos : Nat} {t : α}
    (h : input.drop pos = t :: rest) : pos < input.length := by
  have hlen := length_sub_eq h
  rw [List.length_cons] at hlen
  omega

theorem IsBlockOpener.goesOn {name : String} {ts rest input : List Token} {pos : Nat}
    (h : IsBlockOpener name ts) (hdrop : input.drop pos = ts ++ rest) :
    goesOn input pos = true := by
  obtain ⟨marker, negated, hopens, hhead⟩ := h.exists_head? rest
  obtain ⟨more, hmore⟩ := List.head?_eq_some_iff.1 hhead
  refine goesOn_of_eq_error (lt_length_of_drop_eq_cons (hdrop.trans hmore)) ?_ ?_
  · refine refuses_closeTag ?_ input pos hdrop
    rw [hhead]
    cases hopens <;> simp
  · refine refuses_elseTag_of_head? ?_ input pos hdrop
    rw [hhead]
    cases hopens <;> simp

/-- A body ends before an else tag, before a closing tag and at the end, and nowhere else. -/
theorem cases_of_goesOn_eq_false {input : List Token} {pos : Nat} {pieces : List Piece}
    (h : goesOn input pos = false) (hpieces : Pieces (input.drop pos) pieces) :
    (pieces = [] ∧ input.length ≤ pos) ∨
    (∃ ts rest more, IsElseTag ts ∧ input.drop pos = ts ++ rest ∧ Pieces rest more ∧
      pieces = ⟨.elseTag, ts.length⟩ :: more) ∨
    (∃ name ts rest more, IsCloseTag name ts ∧ input.drop pos = ts ++ rest ∧ Pieces rest more ∧
      pieces = ⟨.closing name, ts.length⟩ :: more) := by
  generalize hdrop : input.drop pos = tokens at hpieces
  cases hpieces with
  | nil =>
    rw [List.drop_eq_nil_iff] at hdrop
    exact .inl ⟨rfl, hdrop⟩
  | @cons ts rest role more hplays hmore =>
    cases role with
    | elseTag =>
      cases hplays with
      | elseTag htag => exact .inr (.inl ⟨ts, rest, more, htag, rfl, hmore, rfl⟩)
    | closing name =>
      cases hplays with
      | closing htag => exact .inr (.inr ⟨name, ts, rest, more, htag, rfl, hmore, rfl⟩)
    | plain =>
      obtain ⟨s, hs⟩ := hplays.exists_statement
      rw [hs.goesOn hdrop] at h
      cases h
    | opening name =>
      cases hplays with
      | opening hopener =>
        rw [hopener.goesOn hdrop] at h
        cases h
    | malformed =>
      cases hplays with
      | malformed hmarker _ _ helse hclose =>
        have hpos : pos < input.length := by
          cases hmarker
          exact lt_length_of_drop_eq_cons hdrop
        rw [goesOn_of_eq_error hpos (hmarker.closeTag_eq_error hclose hdrop)
          (hmarker.elseTag_eq_error helse hdrop)] at h
        cases h

/-! ## What bodies leave -/

section Bodies

variable {input : List Token}

/-- Statements that are read one after the other end where a body ends. -/
theorem goesOn_of_statements_eq_ok {statement : Rule Statement}
    (hadvances : ∀ p next s, statement input p = .ok (next, s) → p < next) {pos stop : Nat}
    {ss : List Statement} (h : statements statement input pos = .ok (stop, ss)) :
    goesOn input stop = false := by
  have hlimit : ∀ limit pos ss, input.length - pos ≤ limit →
      statementsFrom statement input limit pos = .ok (stop, ss) → goesOn input stop = false := by
    intro limit
    induction limit with
    | zero =>
      intro pos ss hle h
      obtain ⟨rfl, -⟩ := Prod.mk.inj (Except.ok.inj h)
      unfold goesOn
      rw [decide_eq_false (by omega)]
      rfl
    | succ limit ih =>
      intro pos ss hle h
      unfold statementsFrom at h
      cases hgo : goesOn input pos with
      | false =>
        rw [hgo, if_neg Bool.false_ne_true] at h
        obtain ⟨rfl, -⟩ := Prod.mk.inj (Except.ok.inj h)
        exact hgo
      | true =>
        rw [hgo, if_pos rfl] at h
        obtain ⟨⟨next, s⟩, hs, h⟩ := bind_eq_ok.1 h
        obtain ⟨⟨stop', ss'⟩, hss, h⟩ := bind_eq_ok.1 h
        obtain ⟨rfl, -⟩ := Prod.mk.inj (Except.ok.inj h)
        have hlt := hadvances pos next s hs
        exact ih next ss' (by omega) hss
  exact hlimit _ pos ss (Nat.le_refl _) h

/-- A statement reads a token. -/
theorem lt_of_statementWith_eq_ok {body : Rule (List Statement)} (hbody : Obeys body DerivesBody)
    {calls pos next : Nat} {s : Statement}
    (h : statementWith (expressionWithin beyond calls) body input pos = .ok (next, s)) :
    pos < next := by
  obtain ⟨read, -, rfl, hread⟩ :=
    obeys_statementWith (obeys_expressionWithin calls) hbody input pos next s h
  have hne : read ≠ [] := by
    rcases hread with hs | helse
    · exact hs.ne_nil
    · rintro rfl
      cases helse
  have := List.length_pos_iff.2 hne
  omega

theorem obeys_innerBody (calls blocks : Nat) :
    Obeys (innerBody (expressionWithin beyond calls) beyond blocks) DerivesBody := by
  cases blocks with
  | zero => exact obeys_beyond _
  | succ blocks => exact obeys_bodyWithin calls blocks

theorem goesOn_of_bodyWith_eq_ok {calls blocks pos stop : Nat} {ss : List Statement}
    (h : bodyWith (expressionWithin beyond calls) beyond blocks input pos = .ok (stop, ss)) :
    goesOn input stop = false := by
  rw [bodyWith_eq] at h
  exact goesOn_of_statements_eq_ok
    (fun _ _ _ hs => lt_of_statementWith_eq_ok (obeys_innerBody calls blocks) hs) h

theorem goesOn_of_innerBody_eq_ok {calls blocks pos stop : Nat} {ss : List Statement}
    (h : innerBody (expressionWithin beyond calls) beyond blocks input pos = .ok (stop, ss)) :
    goesOn input stop = false := by
  cases blocks with
  | zero => cases h
  | succ blocks => exact goesOn_of_bodyWith_eq_ok h

end Bodies

end Stencil.Grammar
