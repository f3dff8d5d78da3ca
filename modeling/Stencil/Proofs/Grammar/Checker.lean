import Stencil.Grammar.Template
import Stencil.Proofs.Grammar.Derivation
import Stencil.Proofs.Lexeme.Arrangement

/-!
# A checker for blocks

Whether the blocks of a template are in order, said without a grammar: the tokens are texts,
comments and markers, and `check` goes over them once, from left to right, with the stack of the
blocks that are open.
-/

namespace Stencil.Grammar

/-! ## Pieces -/

/-- What a piece is to the blocks. -/
inductive Role
  | plain
  | opening (name : String)
  | elseTag
  | closing (name : String)
  | malformed
deriving DecidableEq

/-- An opener and all that follows it up to the closer. -/
inductive IsMarker : List Token → Prop
  | mk (marker : Marker) {inside : List Token} : Unclosed inside →
    IsMarker (.opener marker :: (inside ++ [.closer]))

def IsMustache (ts : List Token) : Prop :=
  ∃ us e, IsTag .interpolation us ts ∧ DerivesExpression us e

/-- A well-formed opener of a block that is closed under `name`. -/
def IsBlockOpener (name : String) (ts : List Token) : Prop :=
  ∃ marker negated us e, OpensBlock marker negated ∧ IsTag marker us ts ∧
    DerivesExpression us e ∧ e.blockName = name

/-- An else tag would be a mustache, too. -/
inductive Plays : List Token → Role → Prop
  | text (value : String) : Plays [.text value] .plain
  | comment (value : String) : Plays [.comment value] .plain
  | mustache {ts : List Token} : IsMustache ts → ¬ IsElseTag ts → Plays ts .plain
  | opening {name : String} {ts : List Token} : IsBlockOpener name ts → Plays ts (.opening name)
  | elseTag {ts : List Token} : IsElseTag ts → Plays ts .elseTag
  | closing {name : String} {ts : List Token} : IsCloseTag name ts → Plays ts (.closing name)
  | malformed {ts : List Token} : IsMarker ts → ¬ IsMustache ts →
    (∀ name, ¬ IsBlockOpener name ts) → ¬ IsElseTag ts → (∀ name, ¬ IsCloseTag name ts) →
    Plays ts .malformed

structure Piece where
  role : Role
  /-- The number of its tokens. -/
  length : Nat
deriving DecidableEq

/-- The tokens split into these pieces. -/
inductive Pieces : List Token → List Piece → Prop
  | nil : Pieces [] []
  | cons {ts us : List Token} {role : Role} {pieces : List Piece} : Plays ts role →
    Pieces us pieces → Pieces (ts ++ us) (⟨role, ts.length⟩ :: pieces)

/-! ## The checker -/

/-- A block that is open. -/
structure OpenBlock where
  name : String
  /-- Where its opener stands. -/
  opener : Nat
  elseSeen : Bool
deriving DecidableEq

inductive Verdict
  | accepted
  | rejected (fault : Fault) (pos : Nat)
  /-- The marker whose tokens stand from `start` on and before `stop` is none of the known ones. -/
  | malformed (start stop : Nat)
deriving DecidableEq

/-- What is wrong first with the pieces from `pos` on, in the innermost of the open blocks. -/
def check : List OpenBlock → Nat → List Piece → Verdict
  | [], _, [] => .accepted
  | block :: _, _, [] => .rejected (.unclosedBlock block.name) block.opener
  | stack, pos, ⟨.plain, length⟩ :: pieces => check stack (pos + length) pieces
  | stack, pos, ⟨.opening name, length⟩ :: pieces =>
    check (⟨name, pos, false⟩ :: stack) (pos + length) pieces
  | [], pos, ⟨.elseTag, _⟩ :: _ => .rejected .strayElse pos
  | block :: stack, pos, ⟨.elseTag, length⟩ :: pieces =>
    if block.elseSeen then .rejected (.duplicateElse block.name) pos
    else check ({ block with elseSeen := true } :: stack) (pos + length) pieces
  | [], pos, ⟨.closing name, _⟩ :: _ => .rejected (.strayClose name) pos
  | block :: stack, pos, ⟨.closing name, length⟩ :: pieces =>
    if name = block.name then check stack (pos + length) pieces
    else .rejected (.mismatchedClose name block.name) pos
  | _, pos, ⟨.malformed, length⟩ :: _ => .malformed pos (pos + length)

/-! ## Tokens split into pieces -/

/-- Inside of a marker, what is left goes on to the closer and then outside of markers. -/
theorem exists_closer_of_alternate {ts : List Token} (h : Token.Alternate true ts) :
    ∃ inside rest, ts = inside ++ .closer :: rest ∧ Unclosed inside ∧
      Token.Alternate false rest := by
  induction ts with
  | nil => cases h
  | cons t ts ih =>
    obtain ⟨hmode, hrest⟩ := h
    by_cases ht : t = .closer
    · subst ht
      exact ⟨[], ts, rfl, by simp [Unclosed], hrest⟩
    · have hopens : t.opensAfter true = true := by
        cases t <;> first | rfl | exact absurd rfl ht
      rw [hopens] at hrest
      obtain ⟨inside, rest, rfl, hinside, halternate⟩ := ih hrest
      refine ⟨t :: inside, rest, rfl, ?_, halternate⟩
      intro hmem
      rcases List.mem_cons.1 hmem with heq | hmem
      · exact ht heq.symm
      · exact hinside hmem

theorem IsMarker.exists_plays {ts : List Token} (h : IsMarker ts) : ∃ role, Plays ts role := by
  by_cases helse : IsElseTag ts
  · exact ⟨_, .elseTag helse⟩
  by_cases hmustache : IsMustache ts
  · exact ⟨_, .mustache hmustache helse⟩
  by_cases hopener : ∃ name, IsBlockOpener name ts
  · obtain ⟨name, hopener⟩ := hopener
    exact ⟨_, .opening hopener⟩
  by_cases hclose : ∃ name, IsCloseTag name ts
  · obtain ⟨name, hclose⟩ := hclose
    exact ⟨_, .closing hclose⟩
  · exact ⟨_, .malformed h hmustache (fun name hname => hopener ⟨name, hname⟩) helse
      fun name hname => hclose ⟨name, hname⟩⟩

/-- Where openers and closers alternate, the tokens split into pieces. -/
theorem exists_pieces {ts : List Token} (h : Token.Alternate false ts) :
    ∃ pieces, Pieces ts pieces := by
  match ts, h with
  | [], _ => exact ⟨[], .nil⟩
  | .text value :: us, ⟨_, hus⟩ =>
    obtain ⟨pieces, hpieces⟩ := exists_pieces hus
    exact ⟨_, .cons (.text value) hpieces⟩
  | .comment value :: us, ⟨_, hus⟩ =>
    obtain ⟨pieces, hpieces⟩ := exists_pieces hus
    exact ⟨_, .cons (.comment value) hpieces⟩
  | .opener marker :: us, ⟨_, hus⟩ =>
    obtain ⟨inside, rest, hsplit, hinside, hrest⟩ := exists_closer_of_alternate hus
    have hlength : rest.length < us.length := by
      rw [hsplit, List.length_append, List.length_cons]
      omega
    obtain ⟨pieces, hpieces⟩ := exists_pieces hrest
    obtain ⟨role, hrole⟩ := IsMarker.exists_plays (.mk marker hinside)
    have hcons := Pieces.cons hrole hpieces
    rw [List.cons_append, List.append_assoc, List.singleton_append, ← hsplit] at hcons
    exact ⟨_, hcons⟩
termination_by ts.length

end Stencil.Grammar
