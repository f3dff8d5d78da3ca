import Stencil.Grammar.Statement
import Stencil.Proofs.Parser.Confined

/-!
# The rules inside of a marker stay there

No rule for expressions reads a closer, so none of them goes beyond the next one. What a tag or the
opener of a block finds wrong stands no further on than the closer, which it reads last.
-/

namespace Stencil.Grammar

open Stencil.Parser

/-- A closer stands there. -/
def IsCloser (t : Option Token) : Prop :=
  t = some .closer

/-! ## Single tokens -/

theorem confined_token {t : Token} (ht : t ≠ .closer) : Confined IsCloser (token t) := by
  refine (Confined.satisfy _ ?_).discard
  rintro _ rfl
  exact if_neg ht.symm

theorem confined_whitespace : Confined IsCloser whitespace := by
  apply Confined.satisfy
  rintro _ rfl
  rfl

theorem confined_optWhitespace : Confined IsCloser optWhitespace :=
  confined_whitespace.optional.discard

theorem confined_identifier : Confined IsCloser identifier := by
  apply Confined.satisfy
  rintro _ rfl
  rfl

theorem confined_literal : Confined IsCloser literal := by
  apply Confined.satisfy
  rintro _ rfl
  rfl

theorem confined_beyond {α : Type} : Confined IsCloser (beyond (α := α)) :=
  fun _ pos _ hpos _ => ⟨Nat.le_refl pos, hpos⟩

/-! ## Expressions -/

theorem confined_path : Confined IsCloser path := by
  have hdot : Confined IsCloser (token .dot) := confined_token (by simp)
  exact ((confined_identifier.pair (hdot.preceded confined_identifier).many).map _).withContext _

theorem confined_argumentWith {subexpression : Rule Expression}
    (h : Confined IsCloser subexpression) : Confined IsCloser (argumentWith subexpression) := by
  refine (Confined.choice fun p hp => ?_).withContext _
  simp only [List.mem_cons, List.not_mem_nil, or_false] at hp
  obtain rfl | rfl | rfl := hp
  · exact confined_literal
  · exact h
  · exact confined_path

theorem confined_subexpression (calls : Nat) : Confined IsCloser (subexpression beyond calls) := by
  have hleft : Confined IsCloser (token .leftParen) := confined_token (by simp)
  have hright : Confined IsCloser (token .rightParen) := confined_token (by simp)
  induction calls with
  | zero => exact (hleft.preceded confined_beyond).withContext _
  | succ calls ih =>
    have harguments := (confined_whitespace.preceded (confined_argumentWith ih)).many
    have hcall : Confined IsCloser (parenthesized (argumentWith (subexpression beyond calls))) :=
      ((confined_optWhitespace.preceded confined_identifier).pair harguments).map _
    exact (hleft.delimited hcall (confined_optWhitespace.preceded hright)).withContext _

theorem confined_expressionWithin (calls : Nat) :
    Confined IsCloser (expressionWithin beyond calls) := by
  have hargument := confined_argumentWith (confined_subexpression calls)
  refine (Confined.choice fun p hp => ?_).withContext _
  simp only [List.mem_cons, List.not_mem_nil, or_false] at hp
  obtain rfl | rfl | rfl := hp
  · have hcall := confined_identifier.pair (confined_whitespace.preceded hargument).many1
    exact (hcall.map _).withContext _
  · exact confined_literal
  · exact confined_path

/-! ## Tags and openers -/

theorem confined_opener (marker : Marker) : Confined IsCloser (opener marker) :=
  (confined_token (by simp)).preceded confined_optWhitespace

theorem blames_closer : Blames IsCloser closer :=
  confined_optWhitespace.blames_preceded (Blames.satisfy _ _).discard

section Statements

variable {expression : Rule Expression} (h : Confined IsCloser expression)

include h

theorem blames_interpolation : Blames IsCloser (interpolation expression) :=
  (((confined_opener _).blames_delimited h blames_closer).map _).withContext _

theorem blames_blockOpener : Blames IsCloser (blockOpener expression) := by
  have hmarker : Confined IsCloser (choice
      [(token (.opener .blockOpen)).map fun _ => false,
       (token (.opener .invertedOpen)).map fun _ => true]) := by
    refine Confined.choice fun p hp => ?_
    simp only [List.mem_cons, List.not_mem_nil, or_false] at hp
    obtain rfl | rfl := hp
    · exact (confined_token (by simp)).map _
    · exact (confined_token (by simp)).map _
  exact hmarker.blames_pair (confined_optWhitespace.blames_delimited h blames_closer)

end Statements

/-! ## Failures at the first token -/

section FailsAt

variable {input : List Token} {pos : Nat}

theorem failsAt_token {t : Token} (h : input[pos]? ≠ some t) : FailsAt (token t) input pos := by
  refine (FailsAt.satisfy ?_).map _
  cases hitem : input[pos]? with
  | none => rfl
  | some item =>
    refine if_neg ?_
    rintro rfl
    exact h hitem

theorem failsAt_interpolation {expression : Rule Expression}
    (h : input[pos]? ≠ some (.opener .interpolation)) :
    FailsAt (interpolation expression) input pos := by
  have hopener : FailsAt (opener .interpolation) input pos :=
    ((failsAt_token h).pair_left _).map _
  exact (((hopener.pair_left _).map _).map _).withContext _

theorem failsAt_textStatement (h : ∀ value, input[pos]? ≠ some (.text value)) :
    FailsAt textStatement input pos := by
  apply FailsAt.satisfy
  cases hitem : input[pos]? with
  | none => rfl
  | some item => cases item <;> first | rfl | exact absurd hitem (h _)

theorem failsAt_commentStatement (h : ∀ value, input[pos]? ≠ some (.comment value)) :
    FailsAt commentStatement input pos := by
  apply FailsAt.satisfy
  cases hitem : input[pos]? with
  | none => rfl
  | some item => cases item <;> first | rfl | exact absurd hitem (h _)

end FailsAt

end Stencil.Grammar
