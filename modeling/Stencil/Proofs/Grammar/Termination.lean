import Stencil.Proofs.Grammar.Descent
import Stencil.Proofs.Grammar.Shifting

/-!
# Reading ends

`reading_ends`: whatever is put together from parsers that stay in bounds does so, too, and comes to
an end. So do the rules of the grammar.

The rules are written once more, around themselves, so that they abort when they nest deeper than
some limit or are repeated more often. They do not abort if the limit is the number of tokens left.
What carries the proof is that a rule which comes back to itself has read a token, as has every
statement of a body.
-/

namespace Stencil.Grammar

open Stencil.Parser (Abortable Chain Combination InBounds Limits Rests Safe Shifts)

/-! ## Rules that contain themselves -/

theorem call_eq : call = callAround call := by
  funext input pos
  have hbound : Shifts input.length 1 (subexpression beyond (input.length + 1)) call :=
    shifts_subexpression_call (Nat.le_succ _)
  have haround : Shifts input.length 1 (subexpression beyond (input.length + 1))
      (callAround call) := by
    rw [subexpression_succ]
    exact shifts_callAround fun less hless => shifts_subexpression_call (Nat.le_of_lt hless)
  rw [← hbound.eq (Nat.le_add_left _ _), haround.eq (Nat.le_add_left _ _)]

theorem expression_eq : expression = expressionAround call := by
  funext input pos
  have haround : Shifts input.length 1 (expressionAround (subexpression beyond input.length))
      (expressionAround call) :=
    shifts_expressionAround (shifts_subexpression_call (Nat.le_refl _))
  exact haround.eq (Nat.le_add_left _ _)

theorem body_eq : body = statements (statementWith expression body) := by
  funext input pos
  have hbound : Shifts input.length 0
      (bodyWithin beyond beyond input.length (input.length + 1)) body :=
    shifts_bodyWithin_body (Nat.le_refl _) (Nat.le_succ _)
  have haround : Shifts input.length 0
      (bodyWithin beyond beyond input.length (input.length + 1))
      (statements (statementWith expression body)) := by
    rw [bodyWithin, bodyWith_eq]
    exact shifts_statements (shifts_statementWith
      (shifts_expressionWithin_expression (Nat.le_refl _))
      fun less hless => shifts_bodyWithin_body (Nat.le_of_lt hless) (Nat.le_of_lt hless))
  rw [← hbound.eq (Nat.le_add_left _ _), haround.eq (Nat.le_add_left _ _)]

theorem shifts_statement (left : Nat) :
    Shifts left 1 (statementWith expression body) (statementWith expression body) :=
  shifts_statementWith (shifts_expression left) fun less _ => shifts_body less

namespace Limited

open Stencil.Parser.Abortable

/-! ## Rules with a limit -/

def path (limit : Nat) : Descent.Rule Expression :=
  ((pair (ofParser identifier)
    (manyWithin limit (preceded (ofParser (token .dot)) (ofParser identifier)))).map
      fun (first, rest) => .path (first :: rest)).withContext "path"

def argument (limit : Nat) (call : Descent.Rule Expression) : Descent.Rule Expression :=
  (choice [ofParser literal, call, path limit]).withContext "argument"

def parenthesized (limit : Nat) (argument : Descent.Rule Expression) : Descent.Rule Expression :=
  (pair (preceded (ofParser optWhitespace) (ofParser identifier))
    (manyWithin limit (preceded (ofParser whitespace) argument))).map
      fun (name, arguments) => .call name arguments

/-- A call in parentheses, in which no more than `depth` may stand in each other. -/
def callWithin (limit : Nat) : Nat → Descent.Rule Expression
  | 0 => (preceded (ofParser (token .leftParen)) abort).withContext "subexpression"
  | depth + 1 =>
    (delimited (ofParser (token .leftParen))
      (parenthesized limit (argument limit (callWithin limit depth)))
      (preceded (ofParser optWhitespace) (ofParser (token .rightParen)))).withContext
        "subexpression"

def call (limit : Nat) : Descent.Rule Expression :=
  callWithin limit limit

def helperCall (limit : Nat) (argument : Descent.Rule Expression) : Descent.Rule Expression :=
  ((pair (ofParser identifier) (many1Within limit (preceded (ofParser whitespace) argument))).map
    fun (name, arguments) => .call name arguments).withContext "helper call"

def expression (limit : Nat) : Descent.Rule Expression :=
  (choice [helperCall limit (argument limit (call limit)), ofParser literal,
    path limit]).withContext "expression"

/-- Statements as long as they go on. When there are more than the limit, this is an abort. -/
def statementsFrom (statement : Descent.Rule Statement) (input : List Token) :
    Nat → Nat → ExceptT (ParseError Fault) Option (Nat × List Statement) := fun limit pos => do
  if goesOn input pos then
    let (next, s) ← statement input pos
    match limit with
    | 0 => ExceptT.mk none
    | limit + 1 =>
      let (stop, ss) ← statementsFrom statement input limit next
      return (stop, s :: ss)
  else return (pos, [])

def statements (limit : Nat) (statement : Descent.Rule Statement) : Descent.Rule (List Statement) :=
  fun input pos => statementsFrom statement input limit pos

/-- The statements of a body, in which no more than `depth` blocks may stand in each other. -/
def bodyWithin (limit : Nat) : Nat → Descent.Rule (List Statement)
  | 0 => statements limit (Descent.statementWith (expression limit) abort)
  | depth + 1 =>
    statements limit (Descent.statementWith (expression limit) (bodyWithin limit depth))

def body (limit : Nat) : Descent.Rule (List Statement) :=
  bodyWithin limit limit

def block (limit : Nat) : Descent.Rule Statement :=
  Descent.blockWith (expression limit) (body limit)

end Limited

/-! ## Agreement -/

section Agreement

variable {left limit : Nat} {n : Nesting} {α : Type}

theorem limits_fits (h : left ≤ limit + 1) : Limits limit (Fits False left n) where
  length_le rest hrest := by have := hrest.length_lt; omega
  drop rest k hrest := by
    refine ⟨False.elim, False.elim, Nat.lt_of_le_of_lt ?_ hrest.length_lt⟩
    rw [List.length_drop]
    exact Nat.sub_le _ _

theorem safe_limitedPath (h : left ≤ limit + 1) :
    SafeAt False False left n (Limited.path limit) path := by
  have hlimits : Limits limit (Fits False left n) := limits_fits h
  have hdot : SafeAt False False left n (.ofParser (token .dot)) (token .dot) :=
    hlimits.safe (Shifts.inBounds fun left => shifts_token left .dot) fun _ _ _ => rfl
  have hname : InBounds (Parser.preceded (token .dot) identifier) :=
    Shifts.inBounds fun left => (shifts_token left .dot).preceded fun _ => shifts_identifier _
  have hnames := hlimits.manyWithin hname (hdot.preceded safe_identifier)
  exact ((safe_identifier.pair hnames).map _).withContext _

section Expressions

variable {g : Descent.Rule Expression} {r : Rule Expression}

theorem safe_limitedArgument (h : left ≤ limit + 1) (hr : SafeAt False False left n g r) :
    SafeAt False False left n (.preceded (.ofParser whitespace) (Limited.argument limit g))
      (Parser.preceded whitespace (argumentWith r)) := by
  have hargument : SafeAt False False left n (Limited.argument limit g) (argumentWith r) :=
    (Safe.choice (.cons safe_literal (.cons hr (.cons (safe_limitedPath h) .nil)))).withContext _
  exact safe_whitespace.preceded hargument

theorem inBounds_spaced (hr : ∀ left, Shifts left 1 r r) :
    InBounds (Parser.preceded whitespace (argumentWith r)) :=
  Shifts.inBounds fun left => shifts_spaced (shifts_argumentWith (hr left))

end Expressions

/-- Behind its parenthesis, a call has one token less left, and one less may stand in it. -/
theorem safe_callWithin {depth : Nat} (hdepth : left ≤ depth + 1) (h : left ≤ limit + 1) :
    SafeAt False False left n (Limited.callWithin limit depth) call := by
  induction depth generalizing left n with
  | zero =>
    have hnone : ∀ rest, ¬ Fits False (left - 1) (n.next .leftParen) rest :=
      fun _ => not_fits_pred hdepth
    have hleft := safe_token False False left n .leftParen
    rw [call_eq]
    exact (hleft.pair_of_abort fun _ _ hfits => absurd hfits (hnone _)).withContext _
  | succ depth ih =>
    have hleft := safe_token False False left n .leftParen
    have hless : left - 1 ≤ limit + 1 := by omega
    have hlimits : Limits limit (Fits False (left - 1) (n.next .leftParen)) := limits_fits hless
    have hinside : SafeAt False False (left - 1) (n.next .leftParen)
        (Limited.callWithin limit depth) call := ih (by omega) hless
    have harguments := hlimits.manyWithin (inBounds_spaced shifts_call)
      (safe_limitedArgument hless hinside)
    have hparenthesized : SafeAt False False (left - 1) (n.next .leftParen)
        (Limited.parenthesized limit (Limited.argument limit (Limited.callWithin limit depth)))
        (parenthesized (argumentWith call)) :=
      ((safe_optWhitespace.preceded safe_identifier).pair harguments).map _
    have hright := safe_optWhitespace.preceded
      (safe_token False False (left - 1) (n.next .leftParen) .rightParen)
    have hcall := (hleft.delimited hparenthesized hright).withContext "subexpression"
    rw [call_eq]
    refine hcall.mono (fun _ hfits => hfits) fun rest hfits => ?_
    exact ⟨False.elim, False.elim, by have := hfits.length_lt; omega⟩

theorem safe_limitedExpression (h : left ≤ limit + 1) :
    SafeAt False False left n (Limited.expression limit) expression := by
  have hcall : SafeAt False False left n (Limited.call limit) call := safe_callWithin h h
  have hlimits : Limits limit (Fits False left n) := limits_fits h
  have harguments := hlimits.many1Within (inBounds_spaced shifts_call)
    (safe_limitedArgument h hcall)
  have hhelper : SafeAt False False left n
      (Limited.helperCall limit (Limited.argument limit (Limited.call limit)))
      (helperCall (argumentWith call)) := ((safe_identifier.pair harguments).map _).withContext _
  rw [expression_eq]
  exact (Safe.choice (.cons hhelper (.cons safe_literal
    (.cons (safe_limitedPath h) .nil)))).withContext _

section Statements

variable {s : Descent.Rule Statement} {s' : Rule Statement} (hs : ∀ left, Shifts left 1 s' s')
include hs

/-- Every statement reads a token, so there are no more of them than tokens. -/
theorem limited_statementsFrom_eq {input : List Token} {pos bound : Nat}
    (hlimit : input.length ≤ pos + limit) (hbound : input.length ≤ pos + bound)
    (hsafe : ∀ later, pos ≤ later → s input later = .mk (some (s' input later))) :
    Limited.statementsFrom s input limit pos =
      .mk (some (statementsFrom s' input bound pos)) := by
  induction bound generalizing pos limit with
  | zero =>
    have hgo : goesOn input pos = false := by
      unfold goesOn
      simp [show ¬ pos < input.length by omega]
    unfold Limited.statementsFrom
    rw [hgo]
    rfl
  | succ bound ih =>
    unfold Limited.statementsFrom statementsFrom
    by_cases hgo : goesOn input pos
    · rw [if_pos hgo, if_pos hgo, hsafe pos (Nat.le_refl pos)]
      have hlt : pos < input.length := (goesOn_eq_true.1 hgo).1
      have hread := hs input.length [] input pos (Nat.le_add_left _ _)
      cases hres : s' input pos with
      | error e => rfl
      | ok result =>
        obtain ⟨next, statement⟩ := result
        rw [hres] at hread
        obtain ⟨-, hread, -⟩ := hread
        cases limit with
        | zero => omega
        | succ limit =>
          have hmore : Limited.statementsFrom s input limit next =
              .mk (some (statementsFrom s' input bound next)) :=
            ih (by omega) (by omega) fun later hlater => hsafe later (by omega)
          show (Limited.statementsFrom s input limit next >>= _) = _
          rw [hmore]
          simp only [ok_bind]
          cases statementsFrom s' input bound next <;> rfl
    · rw [if_neg hgo, if_neg hgo]
      rfl

theorem safe_limitedStatements (h : left ≤ limit + 1) (hsafe : SafeAt False False left n s s') :
    SafeAt False False left n (Limited.statements limit s) (statements s') := by
  have hlimits : Limits limit (Fits False left n) := limits_fits h
  refine hlimits.safe (Shifts.inBounds fun left => shifts_statements (hs left))
    fun input pos hpos => ?_
  exact limited_statementsFrom_eq hs (hlimits.length_le_add hpos) (by omega)
    fun later hlater => hsafe.eq (hlimits.later hpos hlater)

end Statements

/-- Behind its opener, a block has one token less left. -/
theorem safe_limitedBodyWithin {depth blocks : Nat} (hdepth : left ≤ depth + 1)
    (h : left ≤ limit + 1) :
    SafeAt False False left ⟨blocks, 0⟩ (Limited.bodyWithin limit depth) body := by
  have hless : left - 1 ≤ limit + 1 := by omega
  induction depth generalizing left blocks with
  | zero =>
    have hnone : ∀ rest, ¬ Fits False (left - 1) ⟨blocks + 1, 0⟩ rest :=
      fun _ => not_fits_pred hdepth
    rw [body_eq]
    exact safe_limitedStatements shifts_statement h
      (safe_statementWith (safe_limitedExpression h) (safe_limitedExpression hless)
        (.of_false hnone))
  | succ depth ih =>
    have hinner : SafeAt False False (left - 1) ⟨blocks + 1, 0⟩ (Limited.bodyWithin limit depth)
        body := ih (by omega) hless (by omega)
    rw [body_eq]
    exact safe_limitedStatements shifts_statement h
      (safe_statementWith (safe_limitedExpression h) (safe_limitedExpression hless) hinner)

theorem safe_limitedBlock {blocks : Nat} (h : left ≤ limit + 1) :
    SafeAt False False left ⟨blocks, 0⟩ (Limited.block limit) block := by
  have hless : left - 1 ≤ limit + 1 := by omega
  exact safe_blockWith (safe_limitedExpression hless)
    (safe_limitedBodyWithin hless hless)

/-- As many tokens as the limit may be left. -/
theorem eq_of_safeAt {g : Descent.Rule α} {r : Rule α} {input : List Token} {pos : Nat}
    (h : SafeAt False False (limit + 1) .none g r) (hlimit : input.length ≤ pos + limit) :
    g input pos = .mk (some (r input pos)) := by
  have hlength : (input.drop pos).length < limit + 1 := by
    rw [List.length_drop]
    omega
  exact h.eq ⟨False.elim, False.elim, hlength⟩

end Agreement

/-! ## Reading ends -/

/-- **Reading ends.** What is put together from parsers that stay in bounds stays in bounds, and
none of its repetitions goes on for more rounds than there are items ahead. So a repetition of such
a parser, also of one that may read nothing, reads a chain of no more rounds, to a place where the
parser fails or reads nothing. The rules of the grammar stay in bounds, too, and neither nest nor
are repeated more often than there are tokens ahead. -/
theorem reading_ends :
    (∀ {ε ι α : Type} [ToString ι] [DecidableEq ι] (c : Combination ε ι α), c.Leaves InBounds →
      InBounds c.parser ∧
        ∀ limit input pos, input.length ≤ pos + limit →
          c.within limit input pos = .mk (some (c.parser input pos))) ∧
    (∀ {ε ι α : Type} (p : Parser ε ι α), InBounds p → ∀ input pos,
      (∃ rounds stop, Chain p input pos rounds stop ∧ Rests p input stop ∧
        rounds.length ≤ input.length - pos ∧
        Parser.many p input pos = .ok (stop, rounds.map (·.2))) ∧
      ∀ next a, p input pos = .ok (next, a) →
        ∃ rounds stop, Chain p input next rounds stop ∧ Rests p input stop ∧
          rounds.length ≤ input.length - next ∧
          Parser.many1 p input pos = .ok (stop, a :: rounds.map (·.2))) ∧
    (InBounds expression ∧ InBounds path ∧ InBounds body ∧ InBounds block) ∧
    ∀ limit input pos, input.length ≤ pos + limit →
      Limited.expression limit input pos = .mk (some (expression input pos)) ∧
      Limited.path limit input pos = .mk (some (path input pos)) ∧
      Limited.body limit input pos = .mk (some (body input pos)) ∧
      Limited.block limit input pos = .mk (some (block input pos)) := by
  refine ⟨fun c hc => ⟨Combination.inBounds_of_leaves hc, fun _ _ _ => Combination.within_eq hc⟩,
    fun p hp input pos => ⟨hp.exists_many_eq input pos, fun _ _ => hp.exists_many1_eq⟩,
    ⟨Shifts.inBounds shifts_expression, Shifts.inBounds shifts_path, Shifts.inBounds shifts_body,
      Shifts.inBounds shifts_block⟩, fun limit input pos hlimit => ?_⟩
  have hleft : limit + 1 ≤ limit + 1 := Nat.le_refl _
  exact ⟨eq_of_safeAt (safe_limitedExpression hleft) hlimit,
    eq_of_safeAt (safe_limitedPath hleft) hlimit,
    eq_of_safeAt (safe_limitedBodyWithin hleft hleft) hlimit,
    eq_of_safeAt (safe_limitedBlock hleft) hlimit⟩

/-- Blanks, of which there may be none. -/
def blanks : Combination Fault Token (List Unit) :=
  .many1 (.rule optWhitespace)

/-- Also where nothing is left, even behind the end. -/
theorem reading_ends_blanks :
    blanks.Leaves InBounds ∧
      blanks.within 2 [.whitespace " ", .whitespace " "] 0 = .mk (some (.ok (2, [(), ()]))) ∧
      blanks.within 0 [.whitespace " "] 5 = .mk (some (.ok (5, [()]))) ∧
      (∃ rounds stop, Chain optWhitespace [.whitespace " "] 0 rounds stop ∧
        Rests optWhitespace [.whitespace " "] stop ∧ rounds.length ≤ 1 ∧
        Parser.many optWhitespace [.whitespace " "] 0 = .ok (stop, rounds.map (·.2))) ∧
      Limited.body 1 [.text "a"] 0 = .mk (some (.ok (1, [.text "a"]))) := by
  have hblank : InBounds optWhitespace := Shifts.inBounds shifts_optWhitespace
  obtain ⟨-, hends⟩ := reading_ends.1 blanks hblank
  obtain ⟨-, -, hbody, -⟩ := reading_ends.2.2.2 1 [.text "a"] 0 (Nat.le_refl 1)
  refine ⟨hblank, hends 2 _ 0 (Nat.le_refl 2), hends 0 _ 5 (Nat.le_of_ble_eq_true rfl),
    (reading_ends.2.1 optWhitespace hblank [.whitespace " "] 0).1, hbody⟩

end Stencil.Grammar
