import Stencil.Proofs.Grammar.Completeness
import Stencil.Proofs.Grammar.Nesting
import Stencil.Proofs.Parser.Abortable

/-!
# How deep the grammar descends

`descent_never_aborts`: what the scan for nesting lets through, the grammar reads without going into
more than 128 blocks or 127 parentheses, whether the tokens are well-formed or not.

The rules are written once more, so that they abort when they go deeper. What carries the proof is
that the scan is never below the rules: where a rule starts that is in `blocks` blocks and `calls`
parentheses, the scan has counted as many and has not refused what is left (`Fits`). A rule that
fails is given up for another one at the same place, so only what has been read matters. Without
the scan the same proof says that the rules are those of the grammar, but for the aborts.
-/

namespace Stencil.Grammar

open Stencil.Parser (Abortable Answers Obeys Safe)

namespace Descent

open Stencil.Parser.Abortable

/-! ## Rules that abort -/

/-- A rule that may abort. -/
abbrev Rule (α : Type) := Abortable Fault Token α

def argumentWith (subexpression : Rule Expression) : Rule Expression :=
  (choice [ofParser literal, subexpression, ofParser path]).withContext "argument"

def parenthesized (argument : Rule Expression) : Rule Expression :=
  (pair (preceded (ofParser optWhitespace) (ofParser identifier))
    (many (preceded (ofParser whitespace) argument))).map
      fun (name, arguments) => .call name arguments

/-- A call in parentheses, in which at most `calls` more parentheses may be gone into. -/
def subexpression : Nat → Rule Expression
  | 0 => (preceded (ofParser (token .leftParen)) abort).withContext "subexpression"
  | calls + 1 =>
    (delimited (ofParser (token .leftParen)) (parenthesized (argumentWith (subexpression calls)))
      (preceded (ofParser optWhitespace) (ofParser (token .rightParen)))).withContext
        "subexpression"

def helperCall (argument : Rule Expression) : Rule Expression :=
  ((pair (ofParser identifier) (many1 (preceded (ofParser whitespace) argument))).map
    fun (name, arguments) => .call name arguments).withContext "helper call"

def expressionWithin (calls : Nat) : Rule Expression :=
  (choice [helperCall (argumentWith (subexpression calls)), ofParser literal,
    ofParser path]).withContext "expression"

def interpolation (expression : Rule Expression) : Rule Statement :=
  ((delimited (ofParser (opener .interpolation)) expression (ofParser closer)).map
    .interpolation).withContext "mustache"

def blockOpener (expression : Rule Expression) : Rule (Bool × Expression) :=
  pair
    (choice
      [(ofParser (token (.opener .blockOpen))).map fun _ => false,
       (ofParser (token (.opener .invertedOpen))).map fun _ => true])
    (delimited (ofParser optWhitespace) expression (ofParser closer))

def elseBranch (body : Rule (List Statement)) : Rule (Option (List Statement)) := fun input pos =>
  match elseTag input pos with
  | .ok (pos, _) => body.map some input pos
  | .error _ => return (pos, none)

def blockWith (expression : Rule Expression) (body : Rule (List Statement)) : Rule Statement :=
  fun input start => do
    let (pos, negated, e) ← (blockOpener expression).withContext "section" input start
    let (pos, statements) ← body input pos
    let (pos, elseStatements) ← elseBranch body input pos
    if applies elseTag input pos then throw (.failure (.duplicateElse e.blockName) pos)
    let (pos, _) ← ofParser (blockEnd e.blockName start) input pos
    return (pos, .block e negated statements elseStatements)

def statementWith (expression : Rule Expression) (body : Rule (List Statement)) :
    Rule Statement :=
  choice
    [blockWith expression body, interpolation expression, ofParser textStatement,
     ofParser commentStatement]

def statementsFrom (statement : Rule Statement) (input : List Token) :
    Nat → Nat → ExceptT (ParseError Fault) Option (Nat × List Statement)
  | 0, pos => return (pos, [])
  | limit + 1, pos =>
    if goesOn input pos then do
      let (next, s) ← statement input pos
      let (stop, ss) ← statementsFrom statement input limit next
      return (stop, s :: ss)
    else return (pos, [])

def statements (statement : Rule Statement) : Rule (List Statement) := fun input pos =>
  statementsFrom statement input (input.length - pos) pos

/-- The body of a block that may be gone into if `blocks` is not 0. -/
def innerBody (calls : Nat) : Nat → Rule (List Statement)
  | 0 => abort
  | blocks + 1 => statements (statementWith (expressionWithin calls) (innerBody calls blocks))

/-- The statements of a body, which abort when they go into more than `blocks` blocks, or into more
than `calls` parentheses, that stand in each other. -/
def bodyWithin (calls blocks : Nat) : Rule (List Statement) :=
  statements (statementWith (expressionWithin calls) (innerBody calls blocks))

def templateWithin (calls blocks : Nat) (tokens : List Token) :
    ExceptT (ParseError Fault) Option Template :=
  match nestingError? .none 0 tokens with
  | some e => throw e
  | none => do
    let (pos, statements) ← bodyWithin calls blocks tokens 0
    if pos < tokens.length then throw (.failure (leftover tokens pos) pos)
    return .ofStatements statements

end Descent

/-! ## The scan ahead of the rules -/

theorem Nesting.shallow_after {n : Nesting} {ts : List Token} (hn : n.Shallow) (h : n.Allows ts) :
    (n.after ts).Shallow := by
  induction ts generalizing n with
  | nil => exact hn
  | cons t ts ih => exact ih h.1 h.2

/-- What is left is fewer than `left` tokens. If they are `scanned`, the scan has counted `n` before
them and does not refuse them. -/
structure Fits (scanned : Prop) (left : Nat) (n : Nesting) (rest : List Token) : Prop where
  shallow : scanned → n.Shallow
  allows : scanned → n.Allows rest
  length_lt : rest.length < left

section Fits

variable {scanned : Prop} {left : Nat} {n : Nesting} {rest : List Token}

theorem Fits.weaken {more : Nat} (h : Fits scanned left n rest) (hle : left ≤ more) :
    Fits scanned more n rest :=
  ⟨h.shallow, h.allows, Nat.lt_of_lt_of_le h.length_lt hle⟩

theorem Fits.after {read : List Token} (h : Fits scanned left n (read ++ rest)) :
    Fits scanned (left - read.length) (n.after read) rest := by
  have hallows : scanned → n.Allows read ∧ (n.after read).Allows rest := fun hscanned =>
    (n.allows_append read rest).1 (h.allows hscanned)
  have hlength := h.length_lt
  rw [List.length_append] at hlength
  exact ⟨fun hscanned => Nesting.shallow_after (h.shallow hscanned) (hallows hscanned).1,
    fun hscanned => (hallows hscanned).2, by omega⟩

theorem not_fits_zero : ¬ Fits scanned 0 n rest :=
  fun h => Nat.not_lt_zero _ h.length_lt

/-- Behind a token of one that is left, nothing fits. -/
theorem not_fits_pred (hleft : left ≤ 1) : ¬ Fits scanned (left - 1) n rest := by
  rw [Nat.sub_eq_zero_of_le hleft]
  exact not_fits_zero

theorem Fits.calls_lt {blocks calls : Nat} (h : Fits scanned left ⟨blocks, calls⟩ rest)
    (hscanned : scanned) : calls < Template.depthLimit :=
  (h.shallow hscanned).2

theorem Fits.blocks_le {blocks calls : Nat} (h : Fits scanned left ⟨blocks, calls⟩ rest)
    (hscanned : scanned) : blocks ≤ Template.depthLimit :=
  (h.shallow hscanned).1

end Fits

/-- Where the scan has counted `n`, the rule answers as the other one, and leaves the count as it
is. It aborts only if `aborts` holds. -/
abbrev SafeAt {α : Type} (aborts scanned : Prop) (left : Nat) (n : Nesting) (g : Descent.Rule α)
    (r : Rule α) : Prop :=
  Safe aborts (Fits scanned left n) g r (Fits scanned left n)

/-! ## Single tokens -/

section Leaves

variable {aborts scanned : Prop} {left : Nat} {n m : Nesting}

/-- A parser that takes the counts from `n` to `m`. -/
theorem safe_ofParser {α : Type} {p : Rule α} {D : List Token → α → Prop} (hp : Obeys p D)
    (hD : ∀ read a, D read a → n.after read = m) :
    Safe aborts (Fits scanned left n) (.ofParser p) p (Fits scanned left m) := by
  refine Safe.ofParser hp fun read rest a hread hfits => ?_
  rw [← hD read a hread]
  exact hfits.after.weaken (Nat.sub_le _ _)

theorem safe_token (aborts scanned : Prop) (left : Nat) (n : Nesting) (t : Token) :
    Safe aborts (Fits scanned left n) (.ofParser (token t)) (token t)
      (Fits scanned (left - 1) (n.next t)) := by
  refine Safe.ofParser (obeys_token t) fun read rest _ hread hfits => ?_
  subst hread
  exact hfits.after

theorem safe_satisfy {α : Type} {expected : String} {f : Token → Option α}
    (h : ∀ t a, f t = some a → n.next t = n) :
    SafeAt aborts scanned left n (.ofParser (Parser.satisfy expected f))
      (Parser.satisfy expected f) := by
  refine safe_ofParser Obeys.satisfy ?_
  rintro read a ⟨t, ht, rfl⟩
  exact h t a ht

theorem safe_whitespace : SafeAt aborts scanned left n (.ofParser whitespace) whitespace := by
  refine safe_satisfy fun t _ ht => ?_
  cases t <;> cases ht
  rfl

theorem safe_optWhitespace : SafeAt aborts scanned left n (.ofParser optWhitespace) optWhitespace :=
  safe_ofParser obeys_optWhitespace fun _ _ hread => (Nesting.passes_blank hread).1

theorem safe_identifier : SafeAt aborts scanned left n (.ofParser identifier) identifier := by
  refine safe_satisfy fun t _ ht => ?_
  cases t <;> cases ht
  rfl

theorem safe_literal : SafeAt aborts scanned left n (.ofParser literal) literal := by
  refine safe_satisfy fun t _ ht => ?_
  cases t <;> cases ht
  rfl

theorem safe_textStatement :
    SafeAt aborts scanned left n (.ofParser textStatement) textStatement := by
  refine safe_satisfy fun t _ ht => ?_
  cases t <;> cases ht
  rfl

theorem safe_commentStatement :
    SafeAt aborts scanned left n (.ofParser commentStatement) commentStatement := by
  refine safe_satisfy fun t _ ht => ?_
  cases t <;> cases ht
  rfl

theorem safe_path : SafeAt aborts scanned left n (.ofParser path) path := by
  refine safe_ofParser obeys_path ?_
  rintro read e ⟨names, hpath, -⟩
  exact (Nesting.passes_path hpath).1

end Leaves

/-! ## Expressions -/

section Expressions

variable {aborts scanned : Prop} {deeper : Rule Expression} {left blocks calls : Nat}

theorem safe_spacedArgument {n : Nesting} {g : Descent.Rule Expression} {r : Rule Expression}
    (h : SafeAt aborts scanned left n g r) :
    SafeAt aborts scanned left n (.preceded (.ofParser whitespace) (Descent.argumentWith g))
      (Parser.preceded whitespace (argumentWith r)) := by
  have hargument : SafeAt aborts scanned left n (Descent.argumentWith g) (argumentWith r) :=
    (Safe.choice (.cons safe_literal (.cons h (.cons safe_path .nil)))).withContext _
  exact safe_whitespace.preceded hargument

theorem safe_parenthesized {n : Nesting} {g : Descent.Rule Expression} {r : Rule Expression}
    (h : SafeAt aborts scanned left n g r) :
    SafeAt aborts scanned left n (Descent.parenthesized (Descent.argumentWith g))
      (parenthesized (argumentWith r)) :=
  ((safe_optWhitespace.preceded safe_identifier).pair (safe_spacedArgument h).many).map _

/-- In `calls` parentheses, the rule goes into as many more as the scan lets through. The rule it is
compared with has a bound `k` of its own, which is at least `d` or at least the number of tokens. -/
theorem safe_subexpression {d k : Nat} (hd : scanned → Template.depthLimit ≤ calls + d + 1)
    (hk : d ≤ k ∨ left ≤ k + 1) :
    SafeAt (¬ scanned) scanned left ⟨blocks, calls⟩ (Descent.subexpression d)
      (subexpression deeper k) := by
  induction d generalizing calls k left with
  | zero =>
    have hleft := safe_token (¬ scanned) scanned left ⟨blocks, calls⟩ .leftParen
    -- the scan would have refused the parenthesis behind which the rule aborts
    have hdeep : ∀ rest, Fits scanned (left - 1) ⟨blocks, calls + 1⟩ rest → ¬ scanned :=
      fun rest hfits hscanned => Nat.not_lt.2 (hd hscanned) (hfits.calls_lt hscanned)
    cases k <;>
      exact (hleft.pair_of_abort fun _ _ hfits => ⟨hdeep _ hfits, rfl⟩).withContext _
  | succ d ih =>
    have hleft := safe_token (¬ scanned) scanned left ⟨blocks, calls⟩ .leftParen
    cases k with
    | zero =>
      -- no token is left behind a parenthesis, so the other rule does not get to its bound
      have hnone : ∀ rest, ¬ Fits scanned (left - 1) ⟨blocks, calls + 1⟩ rest :=
        fun _ => not_fits_pred (by omega)
      exact (hleft.pair_of_abort fun _ _ hfits => absurd hfits (hnone _)).withContext _
    | succ k =>
      have hinside : SafeAt (¬ scanned) scanned (left - 1) ⟨blocks, calls + 1⟩
          (Descent.subexpression d) (subexpression deeper k) :=
        ih (fun hscanned => by have := hd hscanned; omega) (by omega)
      have hright := safe_optWhitespace.preceded
        (safe_token (¬ scanned) scanned (left - 1) ⟨blocks, calls + 1⟩ .rightParen)
      have hcall := hleft.delimited (safe_parenthesized hinside) hright
      exact (hcall.withContext _).mono (fun _ h => h) fun _ h => h.weaken (by omega)

theorem safe_expressionWithin {d k : Nat} (hd : scanned → Template.depthLimit ≤ d + 1)
    (hk : d ≤ k ∨ left ≤ k + 1) :
    SafeAt (¬ scanned) scanned left ⟨blocks, 0⟩ (Descent.expressionWithin d)
      (expressionWithin deeper k) := by
  have hsubexpression : SafeAt (¬ scanned) scanned left ⟨blocks, 0⟩ (Descent.subexpression d)
      (subexpression deeper k) :=
    safe_subexpression (fun hscanned => by have := hd hscanned; omega) hk
  have harguments := (safe_spacedArgument hsubexpression).many1
  have hcall := ((safe_identifier.pair harguments).map
    fun (name, arguments) => Expression.call name arguments).withContext "helper call"
  exact (Safe.choice (.cons hcall (.cons safe_literal (.cons safe_path .nil)))).withContext _

end Expressions

/-! ## Tags -/

section Tags

variable {aborts scanned : Prop} {left blocks : Nat}

theorem safe_closer : SafeAt aborts scanned left ⟨blocks, 0⟩ (.ofParser closer) closer := by
  refine safe_ofParser obeys_closer ?_
  rintro read _ ⟨cs, rfl, hcs⟩
  exact ((Nesting.passes_blank hcs).append (.one (t := .closer) rfl)).1

theorem safe_opener_interpolation :
    SafeAt aborts scanned left ⟨blocks, 0⟩ (.ofParser (opener .interpolation))
      (opener .interpolation) := by
  refine safe_ofParser (obeys_opener _) ?_
  rintro read _ ⟨bs, rfl, hbs⟩
  exact (Nesting.passes_blank hbs).1

theorem safe_elseTag : SafeAt aborts scanned left ⟨blocks, 0⟩ (.ofParser elseTag) elseTag := by
  refine safe_ofParser obeys_elseTag fun read _ htag => ?_
  obtain ⟨vs, rfl, hvs⟩ := IsTag.passes htag blocks (.one rfl)
  exact hvs.1

/-- The closing tag takes the count of blocks back. -/
theorem safe_blockEnd (name : String) (start : Nat) :
    Safe aborts (Fits scanned left ⟨blocks + 1, 0⟩) (.ofParser (blockEnd name start))
      (blockEnd name start) (Fits scanned left ⟨blocks, 0⟩) := by
  refine safe_ofParser (obeys_blockEnd name start) ?_
  rintro read _ ⟨us, names, hus, htag, -⟩
  obtain ⟨vs, rfl, hvs⟩ := htag.passes blocks (Nesting.passes_path hus)
  exact hvs.1

end Tags

/-! ## Statements -/

section Statements

variable {aborts scanned : Prop} {left blocks : Nat}
variable {g : Descent.Rule Expression} {r : Rule Expression}
variable {body : Descent.Rule (List Statement)} {body' : Rule (List Statement)}

theorem safe_interpolation (h : SafeAt aborts scanned left ⟨blocks, 0⟩ g r) :
    SafeAt aborts scanned left ⟨blocks, 0⟩ (Descent.interpolation g) (interpolation r) :=
  ((safe_opener_interpolation.delimited h safe_closer).map _).withContext _

/-- Behind the marker, the rules are in one more block. -/
theorem safe_blockOpener (h : SafeAt aborts scanned (left - 1) ⟨blocks + 1, 0⟩ g r) :
    Safe aborts (Fits scanned left ⟨blocks, 0⟩) (Descent.blockOpener g) (blockOpener r)
      (Fits scanned (left - 1) ⟨blocks + 1, 0⟩) := by
  have htoken := safe_token aborts scanned left ⟨blocks, 0⟩
  have hplain := (htoken (.opener .blockOpen)).map fun _ => false
  have hnegated := (htoken (.opener .invertedOpen)).map fun _ => true
  have hinside := safe_optWhitespace.delimited h safe_closer
  exact (Safe.choice (.cons hplain (.cons hnegated .nil))).pair hinside

theorem safe_elseBranch (h : SafeAt aborts scanned left ⟨blocks, 0⟩ body body') :
    SafeAt aborts scanned left ⟨blocks, 0⟩ (Descent.elseBranch body) (elseBranch body') := by
  intro input pos hpos
  unfold Descent.elseBranch elseBranch
  have htag : SafeAt aborts scanned left ⟨blocks, 0⟩ (.ofParser elseTag) elseTag := safe_elseTag
  obtain ⟨-, habort⟩ | ⟨-, htag⟩ := htag input pos hpos
  · cases habort
  · cases hres : elseTag input pos with
    | error e => exact .ok hpos
    | ok result =>
      rw [hres] at htag
      exact h.map some input result.1 htag

theorem safe_blockWith (h : SafeAt aborts scanned (left - 1) ⟨blocks + 1, 0⟩ g r)
    (hbody : SafeAt aborts scanned (left - 1) ⟨blocks + 1, 0⟩ body body') :
    SafeAt aborts scanned left ⟨blocks, 0⟩ (Descent.blockWith g body) (blockWith r body') := by
  intro input start hstart
  have hopener := (safe_blockOpener h).withContext "section" input start hstart
  refine hopener.bind fun p₁ opened hp₁ => ?_
  obtain ⟨negated, e⟩ := opened
  refine (hbody input p₁ hp₁).bind fun p₂ statements hp₂ => ?_
  refine (safe_elseBranch hbody input p₂ hp₂).bind fun p₃ elseStatements hp₃ => ?_
  show Answers _ _ input (ite _ _ _) (ite _ _ _)
  by_cases hsecond : applies elseTag input p₃
  · rw [if_pos hsecond, if_pos hsecond]
    exact .error _
  · rw [if_neg hsecond, if_neg hsecond]
    refine (safe_blockEnd e.blockName start input p₃ hp₃).bind fun stop _ hstop => ?_
    exact .ok (hstop.weaken (Nat.sub_le _ _))

theorem safe_statementWith (h : SafeAt aborts scanned left ⟨blocks, 0⟩ g r)
    (hinner : SafeAt aborts scanned (left - 1) ⟨blocks + 1, 0⟩ g r)
    (hbody : SafeAt aborts scanned (left - 1) ⟨blocks + 1, 0⟩ body body') :
    SafeAt aborts scanned left ⟨blocks, 0⟩ (Descent.statementWith g body) (statementWith r body') :=
  Safe.choice (.cons (safe_blockWith hinner hbody) (.cons (safe_interpolation h)
    (.cons safe_textStatement (.cons safe_commentStatement .nil))))

theorem safe_statements {aborts : Prop} {P : List Token → Prop} {s : Descent.Rule Statement}
    {s' : Rule Statement} (h : Safe aborts P s s' P) :
    Safe aborts P (Descent.statements s) (statements s') P := by
  intro input pos hpos
  unfold Descent.statements statements
  generalize input.length - pos = limit
  induction limit generalizing pos with
  | zero => exact .ok hpos
  | succ limit ih =>
    unfold Descent.statementsFrom statementsFrom
    by_cases hgo : goesOn input pos
    · rw [if_pos hgo, if_pos hgo]
      refine (h input pos hpos).bind fun next statement hnext => ?_
      exact (ih next hnext).bind fun stop statements hstop => .ok hstop
    · rw [if_neg hgo, if_neg hgo]
      exact .ok hpos

end Statements

/-! ## Bodies -/

section Bodies

variable {deeperCalls : Rule Expression} {deeperBodies : Rule (List Statement)}
variable {scanned : Prop} {left blocks c d k l : Nat}

/-- A body is safe if the bodies of the blocks in it are, which have one token less. -/
theorem safe_bodyAround {inner : Descent.Rule (List Statement)} {inner' : Rule (List Statement)}
    (hc : scanned → Template.depthLimit ≤ c + 1) (hk : c ≤ k ∨ left ≤ k + 1)
    (hinner : SafeAt (¬ scanned) scanned (left - 1) ⟨blocks + 1, 0⟩ inner inner') :
    SafeAt (¬ scanned) scanned left ⟨blocks, 0⟩
      (Descent.statements (Descent.statementWith (Descent.expressionWithin c) inner))
      (statements (statementWith (expressionWithin deeperCalls k) inner')) := by
  have hexpression : SafeAt (¬ scanned) scanned left ⟨blocks, 0⟩ (Descent.expressionWithin c)
      (expressionWithin deeperCalls k) := safe_expressionWithin hc hk
  have hopened : SafeAt (¬ scanned) scanned (left - 1) ⟨blocks + 1, 0⟩ (Descent.expressionWithin c)
      (expressionWithin deeperCalls k) := safe_expressionWithin hc (by omega)
  exact safe_statements (safe_statementWith hexpression hopened hinner)

/-- Bodies are compared as calls are: the bounds `k` and `l` that the rule has of its own are at
least those of the rule that aborts, or at least the number of tokens. -/
theorem safe_innerBody (hc : scanned → Template.depthLimit ≤ c + 1) (hk : c ≤ k ∨ left ≤ k + 1)
    (hd : scanned → Template.depthLimit ≤ blocks + d) (hl : d ≤ l ∨ left ≤ l) :
    SafeAt (¬ scanned) scanned left ⟨blocks + 1, 0⟩ (Descent.innerBody c d)
      (innerBody (expressionWithin deeperCalls k) deeperBodies l) := by
  induction d generalizing blocks left l with
  | zero =>
    intro input pos hfits
    have hdeep : ¬ scanned := fun hscanned =>
      Nat.not_lt.2 (hd hscanned) (hfits.blocks_le hscanned)
    exact Safe.abort hdeep input pos hfits
  | succ d ih =>
    cases l with
    | zero =>
      rw [show left = 0 by omega]
      exact .of_false fun _ => not_fits_zero
    | succ l =>
      show Safe _ _ _ (bodyWith _ _ _) _
      rw [bodyWith_eq]
      have hinner : SafeAt (¬ scanned) scanned (left - 1) ⟨blocks + 1 + 1, 0⟩
          (Descent.innerBody c d) (innerBody (expressionWithin deeperCalls k) deeperBodies l) :=
        ih (by omega) (fun hscanned => by have := hd hscanned; omega) (by omega)
      exact safe_bodyAround hc hk hinner

theorem safe_bodyWithin (hc : scanned → Template.depthLimit ≤ c + 1) (hk : c ≤ k ∨ left ≤ k + 1)
    (hd : scanned → Template.depthLimit ≤ d) (hl : d ≤ l ∨ left ≤ l + 1) :
    SafeAt (¬ scanned) scanned left Nesting.none (Descent.bodyWithin c d)
      (bodyWithin deeperCalls deeperBodies k l) := by
  unfold bodyWithin
  rw [bodyWith_eq]
  have hinner : SafeAt (¬ scanned) scanned (left - 1) ⟨0 + 1, 0⟩ (Descent.innerBody c d)
      (innerBody (expressionWithin deeperCalls k) deeperBodies l) :=
    safe_innerBody hc (by omega) (fun hscanned => by have := hd hscanned; omega) (by omega)
  exact safe_bodyAround hc hk hinner

theorem fits_none {tokens : List Token} (h : scanned → nestingError? .none 0 tokens = none) :
    Fits scanned (tokens.length + 1) .none (tokens.drop 0) := by
  have hstart : Nesting.none.Shallow := by
    unfold Nesting.Shallow
    decide
  rw [List.drop_zero]
  exact ⟨fun _ => hstart, fun hscanned => Nesting.nestingError?_eq_none_iff.1 (h hscanned),
    Nat.lt_succ_self _⟩

theorem descent_bodyWithin_eq {tokens : List Token} (h : nestingError? .none 0 tokens = none)
    (hk : 127 ≤ k ∨ tokens.length ≤ k) (hl : 128 ≤ l ∨ tokens.length ≤ l) :
    Descent.bodyWithin 127 128 tokens 0 =
      .mk (some (bodyWithin deeperCalls deeperBodies k l tokens 0)) := by
  have hsafe : SafeAt (¬ True) True (tokens.length + 1) .none (Descent.bodyWithin 127 128)
      (bodyWithin deeperCalls deeperBodies k l) :=
    safe_bodyWithin (fun _ => Nat.le_refl 128) (by omega) (fun _ => Nat.le_refl 128) (by omega)
  obtain ⟨habort, -⟩ | ⟨hbody, -⟩ := hsafe tokens 0 (fits_none fun _ => h)
  · exact absurd trivial habort
  · exact hbody

/-- The rules that abort find what the grammar finds under its own bounds. -/
theorem descent_bodyWithin_cases {tokens : List Token} (hk : c ≤ k ∨ tokens.length ≤ k)
    (hl : d ≤ l ∨ tokens.length ≤ l) :
    Descent.bodyWithin c d tokens 0 = .mk none ∨
      Descent.bodyWithin c d tokens 0 =
        .mk (some (bodyWithin deeperCalls deeperBodies k l tokens 0)) := by
  have hsafe : SafeAt (¬ False) False (tokens.length + 1) .none (Descent.bodyWithin c d)
      (bodyWithin deeperCalls deeperBodies k l) :=
    safe_bodyWithin False.elim (by omega) False.elim (by omega)
  obtain ⟨-, habort⟩ | ⟨hbody, -⟩ := hsafe tokens 0 (fits_none False.elim)
  · exact .inl habort
  · exact .inr hbody

theorem descent_templateWithin_eq {tokens : List Token}
    (h : Descent.bodyWithin 127 128 tokens 0 = .mk (some (body tokens 0))) :
    Descent.templateWithin 127 128 tokens = .mk (some (template tokens)) := by
  unfold Descent.templateWithin template templateWith
  cases nestingError? .none 0 tokens with
  | some e => rfl
  | none =>
    simp only
    rw [h]
    cases body tokens 0 with
    | error e => rfl
    | ok result =>
      show ite _ _ _ = ExceptT.mk (some (ite _ _ _))
      by_cases hleft : result.1 < tokens.length
      · rw [if_pos hleft, if_pos hleft]
        rfl
      · rw [if_neg hleft, if_neg hleft]
        rfl

end Bodies

/-- **The descent is bounded.** Rules that abort when they go deeper than some bounds find the same
body as the grammar if they do not abort, and what the grammar does beyond the bounds has made no
difference then. When the scan for nesting has let the tokens through, well-formed or not, the
grammar goes into no more than 128 blocks and no more than 127 parentheses that stand in each
other: with these bounds the rules do not abort, and find the same template. From there on, the
bounds of the grammar itself make no difference. -/
theorem descent_never_aborts (tokens : List Token) :
    (∀ calls blocks, Descent.bodyWithin calls blocks tokens 0 = .mk none ∨
      Descent.bodyWithin calls blocks tokens 0 = .mk (some (body tokens 0)) ∧
        ∀ deeperCalls deeperBodies,
          bodyWithin deeperCalls deeperBodies calls blocks tokens 0 = body tokens 0) ∧
    (nestingError? .none 0 tokens = none →
      Descent.bodyWithin 127 128 tokens 0 = .mk (some (body tokens 0)) ∧
      Descent.templateWithin 127 128 tokens = .mk (some (template tokens)) ∧
      ∀ deeperCalls deeperBodies calls blocks, 127 ≤ calls → 128 ≤ blocks →
        bodyWithin deeperCalls deeperBodies calls blocks tokens 0 = body tokens 0) := by
  constructor
  · intro calls blocks
    have hbody : Descent.bodyWithin calls blocks tokens 0 = .mk none ∨
        Descent.bodyWithin calls blocks tokens 0 = .mk (some (body tokens 0)) :=
      descent_bodyWithin_cases (.inr (Nat.le_refl _)) (.inr (Nat.le_refl _))
    refine hbody.imp_right fun hbody => ⟨hbody, fun deeperCalls deeperBodies => ?_⟩
    have hwithin : Descent.bodyWithin calls blocks tokens 0 = .mk none ∨
        Descent.bodyWithin calls blocks tokens 0 =
          .mk (some (bodyWithin deeperCalls deeperBodies calls blocks tokens 0)) :=
      descent_bodyWithin_cases (.inl (Nat.le_refl _)) (.inl (Nat.le_refl _))
    rw [hbody] at hwithin
    exact (Option.some.inj (hwithin.resolve_left nofun)).symm
  · intro h
    have hbody : Descent.bodyWithin 127 128 tokens 0 = .mk (some (body tokens 0)) :=
      descent_bodyWithin_eq h (.inr (Nat.le_refl _)) (.inr (Nat.le_refl _))
    refine ⟨hbody, descent_templateWithin_eq hbody, ?_⟩
    intro deeperCalls deeperBodies calls blocks hcalls hblocks
    have hwithin : Descent.bodyWithin 127 128 tokens 0 =
        .mk (some (bodyWithin deeperCalls deeperBodies calls blocks tokens 0)) :=
      descent_bodyWithin_eq h (.inl hcalls) (.inl hblocks)
    exact Option.some.inj (hwithin.symm.trans hbody)

/-- In a block that is opened with `a (b`, before a closing tag of which only a parenthesis is left,
a call is tried first and given up in its parenthesis. -/
theorem descent_unclosed_never_aborts :
    ∃ tokens, nestingError? .none 0 tokens = none ∧
      Descent.bodyWithin 127 128 tokens 0 = .mk (some (body tokens 0)) ∧
      Descent.templateWithin 127 128 tokens = .mk (some (template tokens)) ∧
      template tokens = .error ⟨.unexpected "`\x7d\x7d`" "`(`", 3, some "section"⟩ ∧
      bodyWithin beyond beyond 127 128 tokens 0 = body tokens 0 := by
  have hnesting : nestingError? .none 0 [.opener .blockOpen, .identifier "a", .whitespace " ",
    .leftParen, .identifier "b", .closer, .opener .blockClose, .leftParen] = none := rfl
  obtain ⟨hbody, htemplate, hbounds⟩ := (descent_never_aborts _).2 hnesting
  exact ⟨_, hnesting, hbody, htemplate, rfl,
    hbounds beyond beyond 127 128 (Nat.le_refl _) (Nat.le_refl _)⟩

-- the call that is given up has been gone into
example :
    Descent.bodyWithin 0 128 [.opener .interpolation, .identifier "a", .whitespace " ", .leftParen,
      .identifier "b", .closer] 0 = .mk none := rfl

-- the body of the second block is gone into, although neither of the two is closed
example :
    Descent.bodyWithin 127 1 [.opener .blockOpen, .identifier "a", .closer, .opener .invertedOpen,
      .identifier "b", .closer] 0 = .mk none := rfl

end Stencil.Grammar
