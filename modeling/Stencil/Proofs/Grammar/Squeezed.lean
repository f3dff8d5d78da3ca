import Stencil.Grammar.Template
import Stencil.Proofs.Parser.Views

/-!
# Which blanks stand there does not matter

`template_eq_of_squeezed_eq`: tokens that differ in nothing but which blanks stand where make up the
same template, or are refused with the same error. No rule looks into a token of blanks, and no
message shows it.
-/

namespace Stencil

/-- The token with a single space for all its blanks. -/
def Token.squeezed : Token → Token
  | .whitespace _ => .whitespace " "
  | t => t

theorem Token.squeezed_eq_iff {t u : Token} :
    t.squeezed = u.squeezed ↔ t = u ∨ ∃ a b, t = .whitespace a ∧ u = .whitespace b := by
  cases t <;> cases u <;> simp [Token.squeezed]

namespace Grammar

open Stencil.Parser

/-- The rule does not look into blanks. -/
abbrev Squeezes {α : Type} (rule : Rule α) : Prop :=
  Sees Token.squeezed rule

/-! ## Single tokens -/

/-- What a single token is read as must not depend on blanks. -/
theorem squeezes_satisfy {α : Type} (expected : String) {g : Token → Option α}
    (h : ∀ a b, g (.whitespace a) = g (.whitespace b)) : Squeezes (satisfy expected g) := by
  refine .satisfy expected (fun t u heq => ?_) fun t u heq => ?_
  · obtain rfl | ⟨a, b, rfl, rfl⟩ := Token.squeezed_eq_iff.1 heq
    · rfl
    · rfl
  · obtain rfl | ⟨a, b, rfl, rfl⟩ := Token.squeezed_eq_iff.1 heq
    · rfl
    · exact h a b

theorem squeezes_token {t : Token} (ht : ∀ blanks, t ≠ .whitespace blanks) :
    Squeezes (token t) := by
  refine (squeezes_satisfy _ fun a b => ?_).discard
  rw [if_neg (ht a).symm, if_neg (ht b).symm]

theorem squeezes_whitespace : Squeezes whitespace :=
  squeezes_satisfy _ fun _ _ => rfl

theorem squeezes_optWhitespace : Squeezes optWhitespace :=
  squeezes_whitespace.optional.discard

theorem squeezes_identifier : Squeezes identifier :=
  squeezes_satisfy _ fun _ _ => rfl

theorem squeezes_literal : Squeezes literal :=
  squeezes_satisfy _ fun _ _ => rfl

theorem squeezes_beyond {α : Type} : Squeezes (beyond (α := α)) :=
  fun _ _ _ => rfl

/-! ## Expressions -/

theorem squeezes_path : Squeezes path := by
  have hdot : Squeezes (token .dot) := squeezes_token (by simp)
  exact ((squeezes_identifier.pair (hdot.preceded squeezes_identifier).many).map _).withContext _

theorem squeezes_argumentWith {subexpression : Rule Expression} (h : Squeezes subexpression) :
    Squeezes (argumentWith subexpression) := by
  refine (Sees.choice fun p hp => ?_).withContext _
  simp only [List.mem_cons, List.not_mem_nil, or_false] at hp
  obtain rfl | rfl | rfl := hp
  · exact squeezes_literal
  · exact h
  · exact squeezes_path

theorem squeezes_subexpression (calls : Nat) : Squeezes (subexpression beyond calls) := by
  have hleft : Squeezes (token .leftParen) := squeezes_token (by simp)
  have hright : Squeezes (token .rightParen) := squeezes_token (by simp)
  induction calls with
  | zero => exact (hleft.preceded squeezes_beyond).withContext _
  | succ calls ih =>
    have harguments := (squeezes_whitespace.preceded (squeezes_argumentWith ih)).many
    have hcall : Squeezes (parenthesized (argumentWith (subexpression beyond calls))) :=
      ((squeezes_optWhitespace.preceded squeezes_identifier).pair harguments).map _
    exact (hleft.delimited hcall (squeezes_optWhitespace.preceded hright)).withContext _

theorem squeezes_expressionWithin (calls : Nat) : Squeezes (expressionWithin beyond calls) := by
  have hargument := squeezes_argumentWith (squeezes_subexpression calls)
  refine (Sees.choice fun p hp => ?_).withContext _
  simp only [List.mem_cons, List.not_mem_nil, or_false] at hp
  obtain rfl | rfl | rfl := hp
  · have hcall := squeezes_identifier.pair (squeezes_whitespace.preceded hargument).many1
    exact (hcall.map _).withContext _
  · exact squeezes_literal
  · exact squeezes_path

/-! ## Tags -/

theorem squeezes_opener (marker : Marker) : Squeezes (opener marker) :=
  (squeezes_token (by simp)).preceded squeezes_optWhitespace

theorem squeezes_closer : Squeezes closer :=
  squeezes_optWhitespace.preceded (squeezes_token (by simp))

theorem squeezes_elseTag : Squeezes elseTag :=
  (squeezes_opener _).delimited (squeezes_token (by simp)) squeezes_closer

theorem squeezes_closeTag : Squeezes closeTag :=
  (squeezes_opener _).delimited (squeezes_path.map _) squeezes_closer

/-! ## Statements -/

section Statements

variable {expression : Rule Expression} {body deeper : Rule (List Statement)}

theorem squeezes_interpolation (h : Squeezes expression) : Squeezes (interpolation expression) :=
  (((squeezes_opener _).delimited h squeezes_closer).map _).withContext _

theorem squeezes_blockOpener (h : Squeezes expression) : Squeezes (blockOpener expression) := by
  have hmarker : Squeezes (choice
      [(token (.opener .blockOpen)).map fun _ => false,
       (token (.opener .invertedOpen)).map fun _ => true]) := by
    refine Sees.choice fun p hp => ?_
    simp only [List.mem_cons, List.not_mem_nil, or_false] at hp
    obtain rfl | rfl := hp
    · exact (squeezes_token (by simp)).map _
    · exact (squeezes_token (by simp)).map _
  exact hmarker.pair (squeezes_optWhitespace.delimited h squeezes_closer)

theorem squeezes_elseBranch (h : Squeezes body) : Squeezes (elseBranch body) := by
  intro input other hmap
  funext pos
  unfold elseBranch
  rw [squeezes_elseTag input other hmap, h.map some input other hmap]

theorem squeezes_blockEnd (name : String) (start : Nat) : Squeezes (blockEnd name start) := by
  intro input other hmap
  funext pos
  unfold blockEnd
  rw [squeezes_closeTag input other hmap]

theorem squeezes_blockWith (h : Squeezes expression) (hbody : Squeezes body) :
    Squeezes (blockWith expression body) := by
  intro input other hmap
  funext start
  unfold blockWith applies
  simp only [(squeezes_blockOpener h).withContext _ input other hmap, hbody input other hmap,
    squeezes_elseBranch hbody input other hmap, squeezes_elseTag input other hmap,
    squeezes_blockEnd _ _ input other hmap]

theorem squeezes_statementWith (h : Squeezes expression) (hbody : Squeezes body) :
    Squeezes (statementWith expression body) := by
  refine Sees.choice fun p hp => ?_
  simp only [List.mem_cons, List.not_mem_nil, or_false] at hp
  obtain rfl | rfl | rfl | rfl := hp
  · exact squeezes_blockWith h hbody
  · exact squeezes_interpolation h
  · exact squeezes_satisfy _ fun _ _ => rfl
  · exact squeezes_satisfy _ fun _ _ => rfl

theorem squeezes_statements {statement : Rule Statement} (h : Squeezes statement) :
    Squeezes (statements statement) := by
  intro input other hmap
  have hgoesOn (pos : Nat) : goesOn input pos = goesOn other pos := by
    unfold goesOn applies
    rw [length_eq_of_map_eq hmap, squeezes_closeTag input other hmap,
      squeezes_elseTag input other hmap]
  have hfrom (limit pos : Nat) :
      statementsFrom statement input limit pos = statementsFrom statement other limit pos := by
    induction limit generalizing pos with
    | zero => rfl
    | succ limit ih =>
      unfold statementsFrom
      simp only [hgoesOn, h input other hmap, ih]
  funext pos
  unfold statements
  rw [length_eq_of_map_eq hmap, hfrom]

theorem squeezes_bodyWith (h : Squeezes expression) (hdeeper : Squeezes deeper) (blocks : Nat) :
    Squeezes (bodyWith expression deeper blocks) := by
  induction blocks with
  | zero => exact squeezes_statements (squeezes_statementWith h hdeeper)
  | succ blocks ih => exact squeezes_statements (squeezes_statementWith h ih)

end Statements

theorem squeezes_body : Squeezes body := by
  intro input other hmap
  funext pos
  unfold body
  rw [length_eq_of_map_eq hmap]
  exact congrFun (squeezes_bodyWith (squeezes_expressionWithin _) squeezes_beyond _ input other
    hmap) pos

/-! ## Templates -/

/-- Blanks open and close nothing. -/
theorem nestingError?_map_squeezed (n : Nesting) (pos : Nat) (ts : List Token) :
    nestingError? n pos (ts.map Token.squeezed) = nestingError? n pos ts := by
  induction ts generalizing n pos with
  | nil => rfl
  | cons t ts ih =>
    have hnext : n.next t.squeezed = n.next t := by cases t <;> rfl
    rw [List.map_cons]
    unfold nestingError?
    rw [hnext, ih]

theorem template_eq_of_squeezed_eq {ts us : List Token}
    (h : ts.map Token.squeezed = us.map Token.squeezed) : template ts = template us := by
  have hnesting : nestingError? .none 0 ts = nestingError? .none 0 us := by
    rw [← nestingError?_map_squeezed, h, nestingError?_map_squeezed]
  unfold template templateWith leftover
  rw [hnesting, squeezes_body ts us h, length_eq_of_map_eq h, squeezes_closeTag ts us h]

end Grammar

end Stencil
