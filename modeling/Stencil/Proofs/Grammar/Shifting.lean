import Stencil.Proofs.Grammar.Completeness
import Stencil.Proofs.Parser.Shifting

/-!
# Items before the rules

The rules keep to what is left of the tokens, and none of them sees what stands before it. Two
bounds on how deep a rule goes, and what it does beyond them, make no difference if they are no less
than the number of tokens left.
-/

namespace Stencil.Grammar

open Stencil.Parser

/-! ## Single tokens -/

section Leaves

variable (left : Nat)

theorem shifts_token (t : Token) : Shifts left 1 (token t) (token t) :=
  (Shifts.satisfy left _ _).discard

theorem shifts_whitespace : Shifts left 1 whitespace whitespace :=
  Shifts.satisfy left _ _

theorem shifts_optWhitespace : Shifts left 0 optWhitespace optWhitespace :=
  (shifts_whitespace left).optional.discard

theorem shifts_identifier : Shifts left 1 identifier identifier :=
  Shifts.satisfy left _ _

theorem shifts_literal : Shifts left 1 literal literal :=
  Shifts.satisfy left _ _

theorem shifts_path : Shifts left 1 path path := by
  have hnames (left : Nat) := ((shifts_token left .dot).preceded fun _ => shifts_identifier _).many
  exact (((shifts_identifier left).pair fun _ => hnames _).map _).withContext _

end Leaves

/-! ## Expressions -/

section Expressions

variable {left : Nat} {deeper deeper' r r' : Rule Expression}

theorem shifts_argumentWith (h : Shifts left 1 r r') :
    Shifts left 1 (argumentWith r) (argumentWith r') := by
  have hpath := shifts_path left
  exact (Shifts.choice (.cons (shifts_literal left) (.cons h (.cons hpath .nil)))).withContext _

theorem shifts_spaced (h : Shifts left 1 r r') :
    Shifts left 1 (preceded whitespace r) (preceded whitespace r') :=
  ((shifts_whitespace left).preceded fun _ => h.mono (Nat.sub_le _ _) (Nat.le_refl 1)).mono
    (Nat.le_refl left) (by omega)

theorem shifts_parenthesized (h : Shifts left 1 r r') :
    Shifts left 1 (parenthesized r) (parenthesized r') := by
  have hname := (shifts_optWhitespace left).preceded fun _ => shifts_identifier _
  have harguments := (shifts_spaced h).many
  exact (hname.pair fun _ => harguments.mono (Nat.sub_le _ _) (Nat.le_refl 0)).map _

/-- The rule for calls, around itself. -/
def callAround (call : Rule Expression) : Rule Expression :=
  withContext
    (delimited (token .leftParen) (parenthesized (argumentWith call))
      (preceded optWhitespace (token .rightParen)))
    "subexpression"

theorem shifts_callAround (h : ∀ less < left, Shifts less 1 r r') :
    Shifts left 1 (callAround r) (callAround r') := by
  have hright (left : Nat) :=
    (shifts_optWhitespace left).preceded fun _ => shifts_token _ .rightParen
  have hcall := (shifts_token left .leftParen).delimited
    (fun hleft => shifts_parenthesized (shifts_argumentWith (h (left - 1) (by omega))))
    fun _ => hright _
  exact (hcall.withContext _).mono (Nat.le_refl left) (by omega)

theorem subexpression_succ (deeper : Rule Expression) (calls : Nat) :
    subexpression deeper (calls + 1) = callAround (subexpression deeper calls) :=
  rfl

theorem shifts_subexpression {n m : Nat} (hn : left ≤ n) (hm : left ≤ m) :
    Shifts left 1 (subexpression deeper n) (subexpression deeper' m) := by
  induction n generalizing left m with
  | zero =>
    obtain rfl : left = 0 := Nat.le_zero.1 hn
    cases m <;> exact (Shifts.pair_of_end _ _ (shifts_token 0 .leftParen) 1).withContext _
  | succ n ih =>
    cases m with
    | zero =>
      obtain rfl : left = 0 := Nat.le_zero.1 hm
      exact (Shifts.pair_of_end _ _ (shifts_token 0 .leftParen) 1).withContext _
    | succ m =>
      rw [subexpression_succ, subexpression_succ]
      exact shifts_callAround fun less hless => ih (by omega) (by omega)

/-- The rule for expressions, around that for calls in parentheses. -/
def expressionAround (call : Rule Expression) : Rule Expression :=
  withContext (choice [helperCall (argumentWith call), literal, path]) "expression"

theorem shifts_expressionAround (h : Shifts left 1 r r') :
    Shifts left 1 (expressionAround r) (expressionAround r') := by
  have harguments := (shifts_spaced (shifts_argumentWith h)).many1
  have hpair := (shifts_identifier left).pair fun _ =>
    harguments.mono (Nat.sub_le _ _) (Nat.zero_le 1)
  have hcall : Shifts left 1 (helperCall (argumentWith r)) (helperCall (argumentWith r')) :=
    (hpair.map _).withContext _
  exact (Shifts.choice (.cons hcall (.cons (shifts_literal left)
    (.cons (shifts_path left) .nil)))).withContext _

theorem shifts_expressionWithin {n m : Nat} (hn : left ≤ n) (hm : left ≤ m) :
    Shifts left 1 (expressionWithin deeper n) (expressionWithin deeper' m) :=
  shifts_expressionAround (shifts_subexpression hn hm)

end Expressions

/-! ## Tags -/

section Tags

variable (left : Nat)

theorem shifts_opener (marker : Marker) : Shifts left 1 (opener marker) (opener marker) :=
  (shifts_token left _).preceded fun _ => shifts_optWhitespace _

theorem shifts_closer : Shifts left 1 closer closer :=
  ((shifts_optWhitespace left).preceded fun _ => shifts_token _ .closer).mono (Nat.le_refl left)
    (by omega)

theorem shifts_elseTag : Shifts left 1 elseTag elseTag :=
  ((shifts_opener left _).delimited (fun _ => shifts_token _ _) fun _ => shifts_closer _).mono
    (Nat.le_refl left) (by omega)

theorem shifts_closeTag : Shifts left 1 closeTag closeTag :=
  ((shifts_opener left _).delimited (fun _ => (shifts_path _).map _) fun _ => shifts_closer _).mono
    (Nat.le_refl left) (by omega)

end Tags

theorem applies_shift {α : Type} {rule : Rule α} (h : ∀ left, Shifts left 1 rule rule)
    (before input : List Token) (pos : Nat) :
    applies rule (before ++ input) (before.length + pos) = applies rule input pos := by
  unfold applies
  rw [Shifts.shiftInvariant h before input pos]
  cases rule input pos <;> rfl

theorem goesOn_shift (before input : List Token) (pos : Nat) :
    goesOn (before ++ input) (before.length + pos) = goesOn input pos := by
  unfold goesOn
  rw [applies_shift shifts_closeTag, applies_shift shifts_elseTag, List.length_append]
  simp only [Nat.add_lt_add_iff_left]

/-! ## Statements -/

section Statements

variable {left : Nat} {r r' : Rule Expression} {body body' : Rule (List Statement)}

theorem shifts_interpolation (h : Shifts left 1 r r') :
    Shifts left 1 (interpolation r) (interpolation r') := by
  have hmarker := (shifts_opener left .interpolation).delimited
    (fun _ => h.mono (Nat.sub_le _ _) (Nat.le_refl 1)) fun _ => shifts_closer _
  exact ((hmarker.map _).withContext _).mono (Nat.le_refl left) (by omega)

theorem shifts_blockOpener (h : Shifts left 1 r r') :
    Shifts left 1 (blockOpener r) (blockOpener r') := by
  have hplain := (shifts_token left (.opener .blockOpen)).map fun _ => false
  have hnegated := (shifts_token left (.opener .invertedOpen)).map fun _ => true
  have hinside : Shifts (left - 1) 1 (delimited optWhitespace r closer)
      (delimited optWhitespace r' closer) :=
    ((shifts_optWhitespace _).delimited (fun _ => h.mono (by omega) (Nat.le_refl 1))
      fun _ => shifts_closer _).mono (Nat.le_refl _) (by omega)
  exact ((Shifts.choice (.cons hplain (.cons hnegated .nil))).pair fun _ => hinside).mono
    (Nat.le_refl left) (by omega)

theorem shifts_elseBranch (h : Shifts left 0 body body') :
    Shifts left 0 (elseBranch body) (elseBranch body') := by
  intro before input pos hpos
  have htag := shifts_elseTag left before input pos hpos
  unfold elseBranch
  cases hres : elseTag input pos with
  | error e =>
    rw [hres] at htag
    rw [htag.1]
    exact ⟨rfl, Nat.le_refl pos, Nat.le_max_left _ _⟩
  | ok result =>
    rw [hres] at htag
    obtain ⟨hmoved, hmid, hlast⟩ := htag
    rw [hmoved]
    have hbody := h.map some before input result.1 (by omega)
    exact hbody.mono (by omega) (by omega) (by omega)

/-- If the block is not closed, it is its opener that the error is about. -/
theorem moves_blockEnd (name : String) {start pos : Nat} (hstart : start ≤ pos)
    (before input : List Token) :
    Moves before.length start 1 (max pos input.length)
      (blockEnd name (before.length + start) (before ++ input) (before.length + pos))
      (blockEnd name start input pos) := by
  have htag := shifts_closeTag input.length before input pos (by omega)
  unfold blockEnd
  cases hres : closeTag input pos with
  | error e =>
    rw [hres] at htag
    rw [htag.1]
    exact ⟨rfl, Nat.le_refl start, Nat.le_trans hstart (Nat.le_max_left _ _)⟩
  | ok result =>
    rw [hres] at htag
    obtain ⟨hmoved, hmid, hlast⟩ := htag
    rw [hmoved]
    simp only
    split
    · exact ⟨rfl, by omega, hlast⟩
    · exact ⟨rfl, hstart, Nat.le_max_left _ _⟩

/-- The bodies of the block stand behind its opener. -/
theorem shifts_blockWith (h : Shifts left 1 r r')
    (hbody : ∀ less < left, Shifts less 0 body body') :
    Shifts left 1 (blockWith r body) (blockWith r' body') := by
  intro before input start hstart
  have hopener := (shifts_blockOpener h).withContext "section" before input start hstart
  refine hopener.bind fun p₁ opened hp₁ hlast₁ => ?_
  obtain ⟨negated, e⟩ := opened
  have hinner := hbody (left - 1) (by omega)
  have hstatements : Moves before.length start 1 (max start input.length)
      (body (before ++ input) (before.length + p₁)) (body' input p₁) :=
    (hinner before input p₁ (by omega)).mono (by omega) (by omega) (by omega)
  refine hstatements.bind fun p₂ statements hp₂ hlast₂ => ?_
  have helse : Moves before.length start 1 (max start input.length)
      (elseBranch body (before ++ input) (before.length + p₂)) (elseBranch body' input p₂) :=
    (shifts_elseBranch hinner before input p₂ (by omega)).mono (by omega) (by omega) (by omega)
  refine helse.bind fun p₃ elseStatements hp₃ hlast₃ => ?_
  have hstart₃ : start ≤ p₃ := by omega
  show Moves _ _ _ _ (ite _ _ _) (ite _ _ _)
  simp only [applies_shift shifts_elseTag]
  split
  · exact ⟨rfl, hstart₃, hlast₃⟩
  · have hend := moves_blockEnd e.blockName hstart₃ before input
    exact (hend.mono (Nat.le_refl start) (Nat.le_refl _) (by omega)).map
      fun _ => Statement.block e negated statements elseStatements

theorem shifts_statementWith (h : Shifts left 1 r r')
    (hbody : ∀ less < left, Shifts less 0 body body') :
    Shifts left 1 (statementWith r body) (statementWith r' body') :=
  Shifts.choice (.cons (shifts_blockWith h hbody) (.cons (shifts_interpolation h)
    (.cons (Shifts.satisfy left _ _) (.cons (Shifts.satisfy left _ _) .nil))))

theorem shifts_statements {s s' : Rule Statement} (h : Shifts left 1 s s') :
    Shifts left 0 (statements s) (statements s') := by
  intro before input pos hpos
  have hlimit : (before ++ input).length - (before.length + pos) = input.length - pos := by
    rw [List.length_append]
    omega
  unfold statements
  rw [hlimit]
  clear hlimit
  generalize input.length - pos = limit
  induction limit generalizing pos with
  | zero => exact ⟨rfl, Nat.le_refl pos, Nat.le_max_left _ _⟩
  | succ limit ih =>
    unfold statementsFrom
    rw [goesOn_shift]
    split
    · refine (h before input pos hpos).bind fun next statement hnext hlast => ?_
      exact ((ih next (by omega)).mono (by omega) (by omega) (by omega)).map _
    · exact ⟨rfl, Nat.le_refl pos, Nat.le_max_left _ _⟩

end Statements

/-! ## Bounds -/

section Bounds

variable {α : Type} {left least : Nat} {r : Rule α}

/-- The number of tokens is bound enough. -/
theorem shifts_within_length_right {within : Nat → Rule α}
    (h : ∀ {less m}, less ≤ left → less ≤ m → Shifts less least r (within m)) :
    Shifts left least r fun input => within input.length input := by
  intro before input pos hpos
  have hless : input.length - pos ≤ left := by omega
  exact h hless (Nat.sub_le _ _) before input pos (by omega)

theorem shifts_within_length {within : Nat → Rule α}
    (h : ∀ {less n m}, less ≤ n → less ≤ m → Shifts less least (within n) (within m)) (left : Nat) :
    Shifts left least (fun input => within input.length input)
      fun input => within input.length input := by
  intro before input pos _
  have hless : input.length - pos ≤ (before ++ input).length := by
    rw [List.length_append]
    omega
  exact h hless (Nat.sub_le _ _) before input pos (by omega)

end Bounds

section Bodies

variable {left n m : Nat} {r r' : Rule Expression} {deeper deeper' : Rule (List Statement)}

theorem shifts_bodyWith (h : Shifts left 1 r r') (hn : left ≤ n) (hm : left ≤ m) :
    Shifts left 0 (bodyWith r deeper n) (bodyWith r' deeper' m) := by
  induction n generalizing left m with
  | zero =>
    rw [bodyWith_eq, bodyWith_eq]
    exact shifts_statements (shifts_statementWith h fun less hless => by omega)
  | succ n ih =>
    cases m with
    | zero =>
      rw [bodyWith_eq, bodyWith_eq]
      exact shifts_statements (shifts_statementWith h fun less hless => by omega)
    | succ m =>
      rw [bodyWith_eq, bodyWith_eq]
      exact shifts_statements (shifts_statementWith h fun less hless =>
        ih (h.mono (Nat.le_of_lt hless) (Nat.le_refl 1)) (by omega) (by omega))

theorem shifts_bodyWithin {deeperCalls deeperCalls' : Rule Expression} {calls calls' : Nat}
    (hcalls : left ≤ calls) (hcalls' : left ≤ calls') (hn : left ≤ n) (hm : left ≤ m) :
    Shifts left 0 (bodyWithin deeperCalls deeper calls n)
      (bodyWithin deeperCalls' deeper' calls' m) :=
  shifts_bodyWith (shifts_expressionWithin hcalls hcalls') hn hm

end Bodies

/-! ## The rules themselves -/

/-- A call in parentheses, around any other calls. -/
def call : Rule Expression := fun input =>
  subexpression beyond input.length input

/-- A block, around any other blocks. -/
def block : Rule Statement :=
  blockWith expression body

section Rules

variable {left n : Nat} {deeper : Rule Expression} {deeperBodies : Rule (List Statement)}

theorem shifts_call (left : Nat) : Shifts left 1 call call :=
  shifts_within_length shifts_subexpression left

theorem shifts_subexpression_call (hn : left ≤ n) : Shifts left 1 (subexpression deeper n) call :=
  shifts_within_length_right fun hless hm => shifts_subexpression (Nat.le_trans hless hn) hm

theorem shifts_expression (left : Nat) : Shifts left 1 expression expression :=
  shifts_within_length shifts_expressionWithin left

theorem shifts_expressionWithin_expression (hn : left ≤ n) :
    Shifts left 1 (expressionWithin deeper n) expression :=
  shifts_within_length_right fun hless hm => shifts_expressionWithin (Nat.le_trans hless hn) hm

theorem shifts_body (left : Nat) : Shifts left 0 body body :=
  shifts_within_length (fun hn hm => shifts_bodyWithin hn hm hn hm) left

theorem shifts_bodyWithin_body {calls : Nat} (hcalls : left ≤ calls) (hn : left ≤ n) :
    Shifts left 0 (bodyWithin deeper deeperBodies calls n) body :=
  shifts_within_length_right fun hless hm =>
    shifts_bodyWithin (Nat.le_trans hless hcalls) hm (Nat.le_trans hless hn) hm

theorem shifts_block (left : Nat) : Shifts left 1 block block :=
  shifts_blockWith (shifts_expression left) fun less _ => shifts_body less

end Rules

/-! ## What stands in front -/

/-- **Nothing looks behind.** Whatever is put together from single items, and from functions that
stay in bounds and do not look behind where they begin, answers behind other items as it does
without them, but for the positions. So do the rules. -/
theorem shiftInvariant_rules :
    (∀ {ε ι α : Type} [ToString ι] [DecidableEq ι] (c : Combination ε ι α),
      c.Leaves (fun p => InBounds p ∧ ShiftInvariant p) → ShiftInvariant c.parser) ∧
    ShiftInvariant expression ∧ ShiftInvariant path ∧ ShiftInvariant literal ∧
    ShiftInvariant body ∧ ShiftInvariant block :=
  ⟨fun _ hc => Shifts.shiftInvariant (Combination.shifts hc),
    Shifts.shiftInvariant shifts_expression, Shifts.shiftInvariant shifts_path,
    Shifts.shiftInvariant shifts_literal, Shifts.shiftInvariant shifts_body,
    Shifts.shiftInvariant shifts_block⟩

/-- Expressions with a dot before each of them. -/
def dotted : Combination Fault Token (List Expression) :=
  .many (.preceded (.discard (.equal .dot)) (.rule expression))

theorem shiftInvariant_dotted :
    dotted.Leaves (fun p => InBounds p ∧ ShiftInvariant p) ∧
      dotted.parser [.whitespace " ", .dot, .identifier "a", .dot, .literal "b"] 1 =
        .ok (5, [.path ["a"], .literal "b"]) := by
  have hleaves : dotted.Leaves (fun p => InBounds p ∧ ShiftInvariant p) :=
    ⟨trivial, Shifts.inBounds shifts_expression, Shifts.shiftInvariant shifts_expression⟩
  have halone : dotted.parser [.dot, .identifier "a", .dot, .literal "b"] 0 =
      .ok (4, [.path ["a"], .literal "b"]) := rfl
  refine ⟨hleaves, ?_⟩
  rw [show [.whitespace " ", .dot, .identifier "a", .dot, .literal "b"] =
      [Token.whitespace " "] ++ [.dot, .identifier "a", .dot, .literal "b"] from rfl]
  exact (shiftInvariant_rules.1 dotted hleaves [.whitespace " "] _ 0).trans (by rw [halone]; rfl)

end Stencil.Grammar
