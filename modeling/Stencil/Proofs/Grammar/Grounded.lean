import Stencil.Proofs.Grammar.Depth
import Stencil.Proofs.Grammar.Structure
import Stencil.Proofs.Parser.Grounded

/-!
# Templates are refused at one of their tokens

`position_lt_of_template`: where openers and closers alternate, what is wrong with a template is
found at one of its tokens, since the checker finds it there. So it is never that the tokens end,
nor that no rule matched (`isConcrete_of_template`).
-/

namespace Stencil.Grammar

open Stencil.Parser

/-! ## Expressions -/

theorem grounds_token (left : Nat) (t : Token) : Grounds left 1 (token t) :=
  (Grounds.satisfy left _ _).discard

theorem grounds_whitespace (left : Nat) : Grounds left 1 whitespace :=
  Grounds.satisfy left _ _

theorem grounds_optWhitespace (left : Nat) : Grounds left 0 optWhitespace :=
  (grounds_whitespace left).optional.discard

theorem grounds_identifier (left : Nat) : Grounds left 1 identifier :=
  Grounds.satisfy left _ _

theorem grounds_literal (left : Nat) : Grounds left 1 literal :=
  Grounds.satisfy left _ _

/-- Where nothing is left. -/
theorem grounds_beyond {α : Type} (least : Nat) : Grounds 0 least (beyond (α := α)) :=
  fun _ _ hpos => ParseError.grounded_of_le hpos

theorem grounds_path (left : Nat) : Grounds left 1 path :=
  (((grounds_identifier left).pair (grounds_many _ _)).map _).withContext _

theorem grounds_argumentWith {left : Nat} {subexpression : Rule Expression}
    (h : Grounds left 1 subexpression) : Grounds left 1 (argumentWith subexpression) := by
  refine (Grounds.choice (by simp) fun p hp => ?_).withContext _
  simp only [List.mem_cons, List.not_mem_nil, or_false] at hp
  obtain rfl | rfl | rfl := hp
  · exact grounds_literal left
  · exact h
  · exact grounds_path left

/-- The arguments are read as far as they go, so nothing is found wrong with them. -/
theorem grounds_parenthesized (left : Nat) (argument : Rule Expression) :
    Grounds left 1 (parenthesized argument) := by
  have hname := (grounds_optWhitespace left).preceded (grounds_identifier left)
  exact (hname.pair (grounds_many _ _)).map _

theorem grounds_subexpression (calls : Nat) : Grounds calls 1 (subexpression beyond calls) := by
  cases calls with
  | zero => exact ((grounds_token 0 .leftParen).preceded (grounds_beyond 0)).withContext _
  | succ calls =>
    have hright := (grounds_optWhitespace (calls - 1)).preceded (grounds_token _ .rightParen)
    have hsubexpression := (grounds_token (calls + 1) .leftParen).delimited
      (grounds_parenthesized calls (argumentWith (subexpression beyond calls))) hright
    exact (hsubexpression.withContext _).mono (Nat.le_refl _) (by omega)

theorem grounds_expressionWithin (calls : Nat) :
    Grounds calls 1 (expressionWithin beyond calls) := by
  have hargument := grounds_argumentWith (grounds_subexpression calls)
  refine (Grounds.choice (by simp) fun p hp => ?_).withContext _
  simp only [List.mem_cons, List.not_mem_nil, or_false] at hp
  obtain rfl | rfl | rfl := hp
  · have hspaced := (grounds_whitespace (calls - 1)).preceded
      (hargument.mono (by omega) (Nat.le_refl 1))
    have hcall := (grounds_identifier calls).pair hspaced.many1
    exact ((hcall.map _).withContext _).mono (Nat.le_refl _) (by omega)
  · exact grounds_literal calls
  · exact grounds_path calls

/-! ## Tags -/

theorem grounds_opener (left : Nat) (marker : Marker) : Grounds left 1 (opener marker) :=
  (grounds_token left _).preceded (grounds_optWhitespace _)

theorem grounds_closer (left : Nat) : Grounds left 1 closer :=
  (grounds_optWhitespace left).preceded (grounds_token _ _)

theorem grounds_elseTag (left : Nat) : Grounds left 3 elseTag :=
  (grounds_opener left _).delimited (grounds_token _ _) (grounds_closer _)

theorem grounds_closeTag (left : Nat) : Grounds left 3 closeTag :=
  (grounds_opener left _).delimited ((grounds_path _).map _) (grounds_closer _)

/-! ## Statements -/

section Statements

variable {left : Nat} {expression : Rule Expression} {body : Rule (List Statement)}

theorem grounds_interpolation (h : Grounds left 1 expression) :
    Grounds left 3 (interpolation expression) := by
  have hexpression := h.mono (Nat.sub_le left 1) (Nat.le_refl 1)
  exact (((grounds_opener left _).delimited hexpression (grounds_closer _)).map _).withContext _

theorem grounds_blockOpener (h : Grounds left 1 expression) :
    Grounds left 3 (blockOpener expression) := by
  have hmarker : Grounds left 1 (choice
      [(token (.opener .blockOpen)).map fun _ => false,
       (token (.opener .invertedOpen)).map fun _ => true]) := by
    refine Grounds.choice (by simp) fun p hp => ?_
    simp only [List.mem_cons, List.not_mem_nil, or_false] at hp
    obtain rfl | rfl := hp
    · exact (grounds_token left _).map _
    · exact (grounds_token left _).map _
  have hexpression := h.mono (Nat.sub_le left 1) (Nat.le_refl 1)
  exact hmarker.pair ((grounds_optWhitespace _).delimited hexpression (grounds_closer _))

theorem grounds_elseBranch (h : Grounds left 0 body) : Grounds left 0 (elseBranch body) := by
  intro input pos hpos
  have htag := grounds_elseTag left input pos hpos
  unfold elseBranch
  cases hres : elseTag input pos with
  | error e => exact Nat.le_refl pos
  | ok result =>
    rw [hres] at htag
    have hmid : pos + 3 ≤ result.1 := htag
    exact (h.map some input result.1 (by omega)).mono (by omega)

theorem grounds_blockClose (left : Nat) (name : String) (start : Nat) :
    Grounds left 0 (blockClose name start) := by
  intro input pos hpos
  have htag := grounds_closeTag left input pos hpos
  unfold blockClose blockEnd
  split
  · exact ParseError.grounded_failure _ _ _
  · cases hres : closeTag input pos with
    | error e => exact ParseError.grounded_failure _ _ _
    | ok result =>
      rw [hres] at htag
      simp only
      split
      · exact Nat.le_trans (Nat.le_add_right pos 3) htag
      · exact ParseError.grounded_failure _ _ _

/-- The body of a block stands behind the opener. -/
theorem grounds_blockWith (hexpression : Grounds left 1 expression)
    (hbody : Grounds (left - 1) 0 body) : Grounds left 0 (blockWith expression body) := by
  intro input start hstart
  have hopener := (grounds_blockOpener hexpression).withContext "section" input start hstart
  rw [blockWith_eq]
  refine hopener.bind fun pos ⟨negated, e⟩ hpos => ?_
  refine (hbody input pos (by omega)).bind fun pos₂ statements hpos₂ => ?_
  refine (grounds_elseBranch hbody input pos₂ (by omega)).bind fun pos₃ elseStatements hpos₃ => ?_
  refine (grounds_blockClose left e.blockName start input pos₃ (by omega)).bind
    fun stop _ hstop => ?_
  show start + 0 ≤ stop
  omega

theorem grounds_statementWith (hexpression : Grounds left 1 expression)
    (hbody : Grounds (left - 1) 0 body) : Grounds left 0 (statementWith expression body) := by
  refine Grounds.choice (by simp) fun p hp => ?_
  simp only [List.mem_cons, List.not_mem_nil, or_false] at hp
  obtain rfl | rfl | rfl | rfl := hp
  · exact grounds_blockWith hexpression hbody
  · exact (grounds_interpolation hexpression).mono (Nat.le_refl left) (Nat.zero_le 3)
  · exact (Grounds.satisfy left _ _).mono (Nat.le_refl left) (Nat.zero_le 1)
  · exact (Grounds.satisfy left _ _).mono (Nat.le_refl left) (Nat.zero_le 1)

theorem grounds_statements {statement : Rule Statement} (h : Grounds left 0 statement) :
    Grounds left 0 (statements statement) := by
  intro input pos hpos
  unfold statements
  generalize input.length - pos = limit
  induction limit generalizing pos with
  | zero => exact Nat.le_refl pos
  | succ limit ih =>
    unfold statementsFrom
    split
    · refine (h input pos hpos).bind fun next s hnext => ?_
      refine (ih next (by omega)).bind fun stop ss hstop => ?_
      exact Nat.le_trans hnext hstop
    · exact Nat.le_refl pos

end Statements

theorem grounds_bodyWith {calls blocks : Nat} (h : blocks ≤ calls) :
    Grounds blocks 0 (bodyWith (expressionWithin beyond calls) beyond blocks) := by
  have hexpression := grounds_expressionWithin calls
  induction blocks with
  | zero =>
    rw [bodyWith_eq]
    exact grounds_statements (grounds_statementWith (hexpression.mono h (Nat.le_refl 1))
      (grounds_beyond 0))
  | succ blocks ih =>
    rw [bodyWith_eq]
    exact grounds_statements (grounds_statementWith (hexpression.mono h (Nat.le_refl 1))
      (ih (Nat.le_of_succ_le h)))

/-! ## Templates -/

theorem grounded_of_template {tokens : List Token} {e : ParseError Fault}
    (h : template tokens = .error e) : e.Grounded tokens.length := by
  unfold template templateWith at h
  cases hnesting : nestingError? .none 0 tokens with
  | some e' =>
    rw [hnesting] at h
    obtain ⟨fault, k, -, -, rfl⟩ := exists_of_nestingError? hnesting
    obtain rfl := Except.error.inj h
    exact ParseError.grounded_failure _ _ _
  | none =>
    rw [hnesting] at h
    simp only at h
    have hbody : Reaches tokens.length 0 (body tokens 0) :=
      grounds_bodyWith (Nat.le_refl _) tokens 0 (Nat.le_add_left _ _)
    cases hres : body tokens 0 with
    | error e' =>
      rw [hres] at h hbody
      obtain rfl := Except.error.inj h
      exact hbody
    | ok result =>
      rw [hres] at h
      simp only at h
      split at h
      · obtain rfl := Except.error.inj h
        exact ParseError.grounded_failure _ _ _
      · cases h

/-! ## Where the checker stops -/

/-- Nothing that the verdict tells of stands at `last` or behind. -/
def Verdict.Before (last : Nat) : Verdict → Prop
  | .accepted => True
  | .rejected _ pos => pos < last
  | .malformed _ stop => stop ≤ last

theorem Plays.length_pos {ts : List Token} {role : Role} (h : Plays ts role) : 0 < ts.length := by
  cases h with
  | text value => exact Nat.one_pos
  | comment value => exact Nat.one_pos
  | mustache hmustache helse =>
    obtain ⟨us, e, htag, -⟩ := hmustache
    exact Nat.zero_lt_of_lt htag.length_lt
  | opening hopener =>
    obtain ⟨marker, negated, us, e, -, htag, -⟩ := hopener
    exact Nat.zero_lt_of_lt htag.length_lt
  | elseTag htag => exact Nat.zero_lt_of_lt htag.length_lt
  | closing hclose =>
    obtain ⟨us, names, -, htag, -⟩ := hclose
    exact Nat.zero_lt_of_lt htag.length_lt
  | malformed hmarker =>
    cases hmarker
    exact Nat.zero_lt_succ _

/-- The openers of the open blocks have been passed. -/
theorem Pieces.check_before {ts : List Token} {pieces : List Piece} (h : Pieces ts pieces) :
    ∀ (stack : List OpenBlock) (pos : Nat), (∀ block ∈ stack, block.opener < pos) →
      (check stack pos pieces).Before (pos + ts.length) := by
  induction h with
  | nil =>
    intro stack pos hstack
    cases stack with
    | nil => exact trivial
    | cons block stack => exact hstack block List.mem_cons_self
  | @cons ts us role pieces hplays _ ih =>
    intro stack pos hstack
    have hlength := hplays.length_pos
    have hpassed : ∀ block ∈ stack, block.opener < pos + ts.length := fun block hblock =>
      Nat.lt_add_right _ (hstack block hblock)
    have hpos : pos < pos + (ts ++ us).length := by
      rw [List.length_append]
      omega
    have hlast : pos + ts.length + us.length = pos + (ts ++ us).length := by
      rw [List.length_append, Nat.add_assoc]
    have ih := fun stack => ih stack (pos + ts.length)
    rw [hlast] at ih
    cases role with
    | plain =>
      rw [check]
      exact ih stack hpassed
    | opening name =>
      rw [check]
      refine ih _ fun block hblock => ?_
      rcases List.mem_cons.1 hblock with rfl | hblock
      · exact Nat.lt_add_of_pos_right hlength
      · exact hpassed block hblock
    | elseTag =>
      cases stack with
      | nil =>
        rw [check]
        exact hpos
      | cons block stack =>
        rw [check]
        split
        · exact hpos
        · refine ih _ fun block' hblock => ?_
          rcases List.mem_cons.1 hblock with rfl | hblock
          · exact hpassed block List.mem_cons_self
          · exact hpassed block' (List.mem_cons_of_mem _ hblock)
    | closing name =>
      cases stack with
      | nil =>
        rw [check]
        exact hpos
      | cons block stack =>
        rw [check]
        split
        · exact ih _ fun block' hblock => hpassed block' (List.mem_cons_of_mem _ hblock)
        · exact hpos
    | malformed =>
      rw [check]
      show pos + ts.length ≤ pos + (ts ++ us).length
      rw [← hlast]
      exact Nat.le_add_right _ _

theorem Blamed.position_lt {verdict : Verdict} {e : ParseError Fault} {last : Nat}
    (h : Blamed verdict e) (hverdict : verdict.Before last) : e.position < last := by
  cases h with
  | rejected fault pos => exact hverdict
  | malformed _ hstop => exact Nat.lt_of_lt_of_le hstop hverdict

theorem position_lt_of_template {tokens : List Token} {e : ParseError Fault}
    (halternate : Token.Alternate false tokens) (h : template tokens = .error e) :
    e.position < tokens.length := by
  cases hnesting : nestingError? .none 0 tokens with
  | some e' =>
    rw [template_eq_of_nestingError? hnesting] at h
    obtain ⟨fault, k, -, hk, rfl⟩ := exists_of_nestingError? hnesting
    obtain rfl := Except.error.inj h
    show 0 + k < tokens.length
    omega
  | none =>
    obtain ⟨pieces, hpieces⟩ := exists_pieces halternate
    have hagrees := hpieces.agrees hnesting
    have hbefore := hpieces.check_before [] 0 (by simp)
    rw [Nat.zero_add] at hbefore
    rw [h] at hagrees
    generalize check [] 0 pieces = verdict at hagrees hbefore
    cases hagrees with
    | refused hblamed => exact hblamed.position_lt hbefore

theorem isConcrete_of_template {tokens : List Token} {e : ParseError Fault}
    (halternate : Token.Alternate false tokens) (h : template tokens = .error e) :
    e.cause.IsConcrete :=
  grounded_of_template h (position_lt_of_template halternate h)

end Stencil.Grammar
