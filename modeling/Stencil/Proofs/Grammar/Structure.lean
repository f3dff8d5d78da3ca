import Stencil.Proofs.Grammar.Confined
import Stencil.Proofs.Grammar.Ends
import Stencil.Proofs.Lexeme.Splits

/-!
# The grammar finds what the checker finds

`template_agrees_check`: tokens that are not nested too deep are a template just if the checker
accepts them, and if it does not, they are refused for what it names, where it says.

The rules have no stack; the blocks that are open are the rules that have not returned yet. So a
rule agrees with the checker whatever is on the stack (`Follows`), since what it reads opens and
closes blocks above that. In a choice the block comes first, and its error counts, for the other
alternatives fail right at the opener.
-/

namespace Stencil.Grammar

open Stencil.Parser

/-! ## Following the checker -/

/-- The error is the one that the verdict tells of. -/
inductive Blamed : Verdict → ParseError Fault → Prop
  | rejected (fault : Fault) (pos : Nat) : Blamed (.rejected fault pos) (.failure fault pos)
  | malformed {start stop : Nat} {e : ParseError Fault} : start ≤ e.position →
    e.position < stop → Blamed (.malformed start stop) e

/-- What a rule answers at `pos`, which has opened the blocks `opened` since `first`. If it has read
something, the checker goes on behind that with the blocks that were open before. If it has failed,
it has found what the checker finds. -/
inductive Follows {α : Type} (input : List Token) (first pos : Nat) (opened : List OpenBlock)
    (pieces : List Piece) : Except (ParseError Fault) (Nat × α) → Prop
  | ok {stop : Nat} {a : α} {rest : List Piece} : pos ≤ stop → Pieces (input.drop stop) rest →
    (∀ stack, check (opened ++ stack) pos pieces = check stack stop rest) →
    Follows input first pos opened pieces (.ok (stop, a))
  | error {e : ParseError Fault} {verdict : Verdict} : first ≤ e.position → Blamed verdict e →
    (∀ stack, check (opened ++ stack) pos pieces = verdict) →
    Follows input first pos opened pieces (.error e)

section Follows

variable {α β : Type} {input : List Token} {first mid pos : Nat} {opened opened' : List OpenBlock}
variable {pieces more : List Piece}

/-- The checker takes the first step. -/
theorem Follows.step {r : Except (ParseError Fault) (Nat × α)}
    (h : Follows input first mid opened' more r) (hpos : pos ≤ mid)
    (hcheck : ∀ stack, check (opened ++ stack) pos pieces = check (opened' ++ stack) mid more) :
    Follows input first pos opened pieces r := by
  cases h with
  | ok hle hrest hmore =>
    exact .ok (Nat.le_trans hpos hle) hrest fun stack => (hcheck stack).trans (hmore stack)
  | error hfirst hblamed hmore =>
    exact .error hfirst hblamed fun stack => (hcheck stack).trans (hmore stack)

/-- What is read inside of blocks that are open leaves them open. -/
theorem Follows.bind {x : Except (ParseError Fault) (Nat × α)}
    {f : Nat × α → Except (ParseError Fault) (Nat × β)} (hx : Follows input pos pos [] pieces x)
    (hfirst : first ≤ pos)
    (hf : ∀ stop a rest, x = .ok (stop, a) → pos ≤ stop → Pieces (input.drop stop) rest →
      Follows input first stop opened rest (f (stop, a))) :
    Follows input first pos opened pieces (x >>= f) := by
  cases hx with
  | ok hle hrest hcheck =>
    exact (hf _ _ _ rfl hle hrest).step hle fun stack => hcheck (opened ++ stack)
  | error hposition hblamed hcheck =>
    exact .error (Nat.le_trans hfirst hposition) hblamed fun stack => hcheck (opened ++ stack)

theorem Follows.map {p : Rule α} (f : α → β)
    (h : Follows input first pos opened pieces (p input pos)) :
    Follows input first pos opened pieces (p.map f input pos) := by
  unfold Parser.map
  generalize p input pos = r at h
  cases h with
  | ok hle hrest hcheck => exact .ok hle hrest hcheck
  | error hposition hblamed hcheck => exact .error hposition hblamed hcheck

theorem exists_of_map_eq_ok {p : Rule α} {f : α → β} {stop : Nat} {b : β}
    (h : p.map f input pos = .ok (stop, b)) : ∃ a, p input pos = .ok (stop, a) := by
  unfold Parser.map at h
  cases hres : p input pos with
  | error e =>
    rw [hres] at h
    cases h
  | ok r =>
    rw [hres] at h
    obtain ⟨rfl, -⟩ := Prod.mk.inj (Except.ok.inj h)
    exact ⟨_, rfl⟩

/-- A value that is put together at the end. -/
theorem Follows.bind_ok {x : Except (ParseError Fault) (Nat × α)} (f : α → β)
    (h : Follows input first pos opened pieces x) :
    Follows input first pos opened pieces (x >>= fun r => .ok (r.1, f r.2)) := by
  cases h with
  | ok hle hrest hcheck => exact .ok hle hrest hcheck
  | error hposition hblamed hcheck => exact .error hposition hblamed hcheck

end Follows

/-! ## Markers that are malformed -/

theorem follows_malformed {ts rest input : List Token} {pos : Nat} (pieces : List Piece)
    (body : Rule (List Statement)) (calls : Nat) (h : Plays ts .malformed)
    (hdrop : input.drop pos = ts ++ rest) :
    Follows input pos pos [] (⟨.malformed, ts.length⟩ :: pieces)
      (statementWith (expressionWithin beyond calls) body input pos) := by
  cases h with
  | malformed hmarker hmustache hopener helse hclose =>
    have hexpression := confined_expressionWithin calls
    obtain ⟨marker, hinside⟩ := id hmarker
    rename_i inside
    have hfirst : input[pos]? = some (.opener marker) := by
      rw [getElem?_eq_head?_drop, hdrop]
      rfl
    have hlast : IsCloser input[pos + (inside.length + 1)]? := by
      unfold IsCloser
      rw [← List.getElem?_drop, hdrop]
      simp
    have hle : pos ≤ pos + (inside.length + 1) := Nat.le_add_right _ _
    have hfails : ∃ e, statementWith (expressionWithin beyond calls) body input pos = .error e ∧
        (pos ≤ e.position ∧ e.position ≤ pos + (inside.length + 1)) := by
      refine exists_choice_eq_error (by simp) fun p hp => ?_
      simp only [List.mem_cons, List.not_mem_nil, or_false] at hp
      obtain rfl | rfl | rfl | rfl := hp
      · obtain ⟨e, he⟩ := hmarker.blockOpener_eq_error hopener hdrop calls
        refine ⟨e, ?_, (blames_blockOpener hexpression).withContext _ _ _ _ e hle hlast he⟩
        unfold blockWith
        rw [he]
        rfl
      · obtain ⟨e, he⟩ := hmarker.interpolation_eq_error hmustache hdrop calls
        exact ⟨e, he, blames_interpolation hexpression _ _ _ e hle hlast he⟩
      · have hnotext : ∀ value, input[pos]? ≠ some (.text value) := by simp [hfirst]
        obtain ⟨e, he, hposition⟩ := failsAt_textStatement hnotext
        exact ⟨e, he, by omega⟩
      · have hnocomment : ∀ value, input[pos]? ≠ some (.comment value) := by simp [hfirst]
        obtain ⟨e, he, hposition⟩ := failsAt_commentStatement hnocomment
        exact ⟨e, he, by omega⟩
    obtain ⟨e, he, hposition, hstop⟩ := hfails
    rw [he]
    refine .error hposition (.malformed hposition ?_) fun stack => by rw [check]
    simp only [List.length_cons, List.length_append, List.length_nil]
    omega

/-! ## Blocks -/

/-- Behind the bodies of a block. -/
def blockClose (name : String) (start : Nat) : Rule Unit := fun input pos =>
  if applies elseTag input pos then .error (.failure (.duplicateElse name) pos)
  else blockEnd name start input pos

theorem blockWith_eq (expression : Rule Expression) (body : Rule (List Statement))
    (input : List Token) (start : Nat) :
    blockWith expression body input start = (do
      let (pos, negated, e) ← withContext (blockOpener expression) "section" input start
      let (pos, statements) ← body input pos
      let (pos, elseStatements) ← elseBranch body input pos
      let (pos, _) ← blockClose e.blockName start input pos
      .ok (pos, .block e negated statements elseStatements)) := by
  unfold blockWith blockClose
  cases withContext (blockOpener expression) "section" input start with
  | error e => rfl
  | ok r =>
    obtain ⟨p₁, negated, e⟩ := r
    simp only [ok_bind]
    cases body input p₁ with
    | error e => rfl
    | ok r =>
      obtain ⟨p₂, statements⟩ := r
      simp only [ok_bind]
      cases elseBranch body input p₂ with
      | error e => rfl
      | ok r =>
        obtain ⟨p₃, elseStatements⟩ := r
        simp only [ok_bind]
        cases applies elseTag input p₃ <;> rfl

section Blocks

variable {input : List Token} {name : String} {pos start : Nat} {pieces : List Piece}

theorem refuses_tags_of_length_le (h : input.length ≤ pos) :
    (∃ e, elseTag input pos = .error e) ∧ ∃ e, closeTag input pos = .error e := by
  have hdrop : input.drop pos = [] := List.drop_eq_nil_iff.2 h
  exact ⟨refuses_elseTag_of_head? (by simp) input pos hdrop,
    refuses_closeTag (by simp) input pos hdrop⟩

/-- Where a block has to end, an else tag is one too many if there was one before. -/
theorem follows_blockClose {seen : Bool} (hgo : goesOn input pos = false)
    (hpieces : Pieces (input.drop pos) pieces) (hstart : start ≤ pos)
    (hseen : seen = true ∨ ∃ e, elseTag input pos = .error e) :
    Follows input start pos [⟨name, start, seen⟩] pieces (blockClose name start input pos) := by
  unfold blockClose
  rcases cases_of_goesOn_eq_false hgo hpieces with ⟨rfl, hend⟩ |
    ⟨ts, rest, more, htag, hdrop, hmore, rfl⟩ | ⟨closing, ts, rest, more, htag, hdrop, hmore, rfl⟩
  · obtain ⟨helse, e, he⟩ := refuses_tags_of_length_le hend
    rw [applies_eq_false.2 helse, if_neg Bool.false_ne_true]
    unfold blockEnd
    rw [he]
    exact .error (Nat.le_refl start) (.rejected _ _) fun stack => by rw [List.cons_append, check]
  · have hread := reads_elseTag htag rest input pos hdrop
    rw [applies_eq_true.2 ⟨_, hread⟩, if_pos rfl]
    have hseen : seen = true := by
      refine hseen.resolve_right ?_
      rintro ⟨e, he⟩
      cases hread.symm.trans he
    refine .error hstart (.rejected _ _) fun stack => ?_
    rw [List.cons_append, check, hseen, if_pos rfl]
  · have helse := htag.refuses_elseTag rest input pos hdrop
    rw [applies_eq_false.2 helse, if_neg Bool.false_ne_true]
    unfold blockEnd
    rw [reads_closeTag htag rest input pos hdrop]
    by_cases hname : closing = name
    · simp only [hname, if_true]
      rw [← drop_add_length hdrop] at hmore
      refine .ok (Nat.le_add_right _ _) hmore fun stack => ?_
      rw [List.cons_append, check, if_pos rfl]
      rfl
    · simp only [hname, if_false]
      refine .error hstart (.rejected _ _) fun stack => ?_
      rw [List.cons_append, check, if_neg hname]

variable {body : Rule (List Statement)}
  (hbody : ∀ p ps, start < p → Pieces (input.drop p) ps → Follows input p p [] ps (body input p))
  (hhalts : ∀ p stop ss, body input p = .ok (stop, ss) → goesOn input stop = false)

include hbody hhalts

theorem follows_elseBranch {β : Type} (g : Option (List Statement) → β)
    (hgo : goesOn input pos = false) (hpieces : Pieces (input.drop pos) pieces)
    (hstart : start < pos) :
    Follows input start pos [⟨name, start, false⟩] pieces (do
      let (pos, elseStatements) ← elseBranch body input pos
      let (pos, _) ← blockClose name start input pos
      .ok (pos, g elseStatements)) := by
  unfold elseBranch
  cases htag : elseTag input pos with
  | error e =>
    exact (follows_blockClose hgo hpieces (Nat.le_of_lt hstart) (.inr ⟨e, htag⟩)).bind_ok
      fun _ => g none
  | ok r =>
    rcases cases_of_goesOn_eq_false hgo hpieces with ⟨-, hend⟩ |
      ⟨ts, rest, more, hts, hdrop, hmore, rfl⟩ | ⟨closing, ts, rest, more, hts, hdrop, -, -⟩
    · obtain ⟨⟨e, he⟩, -⟩ := refuses_tags_of_length_le hend
      cases htag.symm.trans he
    · have hread := reads_elseTag hts rest input pos hdrop
      obtain rfl := Except.ok.inj (htag.symm.trans hread)
      rw [← drop_add_length hdrop] at hmore
      have helse := (hbody _ more (by omega) hmore).map some
      have hcheck : ∀ stack,
          check ([⟨name, start, false⟩] ++ stack) pos (⟨.elseTag, ts.length⟩ :: more) =
            check ([⟨name, start, true⟩] ++ stack) (pos + ts.length) more := by
        intro stack
        rw [List.cons_append, check]
        rfl
      refine Follows.step ?_ (Nat.le_add_right _ _) hcheck
      refine helse.bind (by omega) fun stop elseStatements rest hok hle hrest => ?_
      have hgo : goesOn input stop = false := by
        obtain ⟨ss, hss⟩ := exists_of_map_eq_ok hok
        exact hhalts _ _ _ hss
      exact (follows_blockClose hgo hrest (by omega) (.inl rfl)).bind_ok fun _ => g elseStatements
    · obtain ⟨e, he⟩ := hts.refuses_elseTag rest input pos hdrop
      cases htag.symm.trans he

/-- A block whose opener is well-formed. -/
theorem follows_blockWith {ts rest : List Token} {calls : Nat} (hopener : IsBlockOpener name ts)
    (hdrop : input.drop start = ts ++ rest) (hcalls : ts.length ≤ calls)
    (hpieces : Pieces rest pieces) :
    Follows input start start [] (⟨.opening name, ts.length⟩ :: pieces)
      (blockWith (expressionWithin beyond calls) body input start) := by
  obtain ⟨marker, negated, us, e, hopens, htag, he, rfl⟩ := hopener
  have hlength := htag.length_lt
  have hopen : Reads (withContext (blockOpener (expressionWithin beyond calls)) "section") ts
      (negated, e) rest :=
    (reads_blockOpener hopens htag he.unspaced fun cs hc more =>
      he.reads calls (by omega) hc more).withContext _
  rw [← drop_add_length hdrop] at hpieces
  rw [blockWith_eq, hopen input start hdrop, ok_bind]
  have hcheck : ∀ stack, check ([] ++ stack) start (⟨.opening e.blockName, ts.length⟩ :: pieces) =
      check ([⟨e.blockName, start, false⟩] ++ stack) (start + ts.length) pieces := by
    intro stack
    rw [List.nil_append, check]
    rfl
  refine Follows.step ?_ (Nat.le_add_right _ _) hcheck
  refine (hbody _ pieces (by omega) hpieces).bind (by omega) fun stop ss rest hok hle hrest => ?_
  exact follows_elseBranch hbody hhalts (fun elseBody => Statement.block e negated ss elseBody)
    (hhalts _ _ _ hok) hrest (by omega)

end Blocks

/-! ## Statements -/

/-- The answer of a choice at the opener of a block is that of the rule for blocks. -/
theorem follows_of_blockWith {expression : Rule Expression} {body : Rule (List Statement)}
    {input : List Token} {pos : Nat} {opened : List OpenBlock} {pieces : List Piece}
    {marker : Marker} {negated : Bool} (hopens : OpensBlock marker negated)
    (hfirst : input[pos]? = some (.opener marker))
    (h : Follows input pos pos opened pieces (blockWith expression body input pos)) :
    Follows input pos pos opened pieces (statementWith expression body input pos) := by
  have hothers : ∀ q ∈ [interpolation expression, textStatement, commentStatement],
      FailsAt q input pos := by
    intro q hq
    simp only [List.mem_cons, List.not_mem_nil, or_false] at hq
    obtain rfl | rfl | rfl := hq
    · refine failsAt_interpolation ?_
      rw [hfirst]
      cases hopens <;> simp
    · exact failsAt_textStatement (by simp [hfirst])
    · exact failsAt_commentStatement (by simp [hfirst])
  cases hres : blockWith expression body input pos with
  | ok r =>
    have hchoice : statementWith expression body input pos = .ok r := by
      unfold statementWith choice choiceFrom
      rw [hres]
    rw [hchoice, ← hres]
    exact h
  | error e =>
    rw [hres] at h
    have hposition : pos ≤ e.position := by
      cases h with
      | error hposition _ _ => exact hposition
    have hchoice : statementWith expression body input pos = .error e :=
      choice_eq_error_of_failsAt hres hposition hothers
    rw [hchoice]
    exact h

section Bodies

variable {input : List Token}

theorem follows_statement {blocks pos : Nat} {pieces : List Piece}
    (hbody : ∀ p ps, pos < p → Pieces (input.drop p) ps → Follows input p p [] ps
      (innerBody (expressionWithin beyond input.length) beyond blocks input p))
    (hblocks : input.length - pos ≤ blocks) (hgo : goesOn input pos = true)
    (hpieces : Pieces (input.drop pos) pieces) :
    Follows input pos pos [] pieces
      (statementWith (expressionWithin beyond input.length)
        (innerBody (expressionWithin beyond input.length) beyond blocks) input pos) := by
  generalize hdrop : input.drop pos = tokens at hpieces
  cases hpieces with
  | nil =>
    have hpos := (goesOn_eq_true.1 hgo).1
    have hlength := length_sub_eq hdrop
    rw [List.length_nil] at hlength
    omega
  | @cons ts rest role more hplays hmore =>
    have hlength := length_sub_eq hdrop
    rw [List.length_append] at hlength
    cases role with
    | plain =>
      obtain ⟨s, hs⟩ := hplays.exists_statement
      have hreads : Reads (statementWith (expressionWithin beyond input.length)
          (innerBody (expressionWithin beyond input.length) beyond blocks)) ts s rest :=
        hs.reads blocks (by omega) (by omega) rest
      rw [hreads input pos hdrop]
      rw [← drop_add_length hdrop] at hmore
      refine .ok (Nat.le_add_right _ _) hmore fun stack => ?_
      rw [List.nil_append, check]
    | opening name =>
      cases hplays with
      | opening hopener =>
        obtain ⟨marker, negated, hopens, hhead⟩ := hopener.exists_head? rest
        have hfirst : input[pos]? = some (.opener marker) := by
          rw [getElem?_eq_head?_drop, hdrop, hhead]
        exact follows_of_blockWith hopens hfirst
          (follows_blockWith hbody (fun _ _ _ hok => goesOn_of_innerBody_eq_ok hok) hopener hdrop
            (by omega) hmore)
    | malformed => exact follows_malformed more _ _ hplays hdrop
    | elseTag =>
      cases hplays with
      | elseTag htag =>
        rw [halts_elseTag htag rest input pos hdrop] at hgo
        cases hgo
    | closing name =>
      cases hplays with
      | closing htag =>
        rw [halts_closeTag htag rest input pos hdrop] at hgo
        cases hgo

theorem follows_statements {statement : Rule Statement} {first : Nat}
    (hstatement : ∀ p ps, first ≤ p → goesOn input p = true → Pieces (input.drop p) ps →
      Follows input p p [] ps (statement input p)) {pos : Nat} {pieces : List Piece}
    (hfirst : first ≤ pos) (hpieces : Pieces (input.drop pos) pieces) :
    Follows input pos pos [] pieces (statements statement input pos) := by
  unfold statements
  generalize input.length - pos = limit
  induction limit generalizing pos pieces with
  | zero => exact .ok (Nat.le_refl pos) hpieces fun _ => rfl
  | succ limit ih =>
    unfold statementsFrom
    cases hgo : goesOn input pos with
    | false =>
      rw [if_neg Bool.false_ne_true]
      exact .ok (Nat.le_refl pos) hpieces fun _ => rfl
    | true =>
      rw [if_pos rfl]
      refine (hstatement pos pieces hfirst hgo hpieces).bind (Nat.le_refl pos)
        fun next s rest _ hle hrest => ?_
      refine (ih (Nat.le_trans hfirst hle) hrest).bind hle fun stop ss rest' _ _ hrest' => ?_
      exact .ok (Nat.le_refl stop) hrest' fun _ => rfl

theorem follows_bodyWith {blocks pos : Nat} {pieces : List Piece}
    (hblocks : input.length - pos ≤ blocks) (hpieces : Pieces (input.drop pos) pieces) :
    Follows input pos pos [] pieces
      (bodyWith (expressionWithin beyond input.length) beyond blocks input pos) := by
  induction blocks generalizing pos pieces with
  | zero =>
    rw [bodyWith_eq]
    refine follows_statements (fun p ps hp hgo _ => ?_) (Nat.le_refl pos) hpieces
    have := (goesOn_eq_true.1 hgo).1
    omega
  | succ blocks ih =>
    rw [bodyWith_eq]
    refine follows_statements (fun p ps hp hgo hps => ?_) (Nat.le_refl pos) hpieces
    refine follows_statement (fun p' ps' hlt hps' => ?_) (by omega) hgo hps
    have := (goesOn_eq_true.1 hgo).1
    exact ih (by omega) hps'

end Bodies

/-! ## Templates -/

/-- The answer that a verdict stands for. -/
inductive Agrees : Verdict → Except (ParseError Fault) Template → Prop
  | accepted (t : Template) : Agrees .accepted (.ok t)
  | refused {verdict : Verdict} {e : ParseError Fault} : Blamed verdict e →
    Agrees verdict (.error e)

theorem Pieces.agrees {tokens : List Token} {pieces : List Piece} (h : Pieces tokens pieces)
    (hnesting : nestingError? .none 0 tokens = none) :
    Agrees (check [] 0 pieces) (template tokens) := by
  have hdrop : tokens.drop 0 = tokens := List.drop_zero
  have hbody : Follows tokens 0 0 [] pieces (body tokens 0) :=
    follows_bodyWith (Nat.sub_le _ _) (hdrop.symm ▸ h)
  unfold template templateWith
  rw [hnesting]
  cases hres : body tokens 0 with
  | error e =>
    rw [hres] at hbody
    cases hbody with
    | error _ hblamed hcheck =>
      have hcheck := hcheck []
      rw [List.append_nil] at hcheck
      rw [hcheck]
      exact .refused hblamed
  | ok r =>
    obtain ⟨stop, ss⟩ := r
    rw [hres] at hbody
    have hgo : goesOn tokens stop = false := goesOn_of_bodyWith_eq_ok hres
    cases hbody with
    | ok _ hrest hcheck =>
      have hcheck := hcheck []
      rw [List.append_nil] at hcheck
      rw [hcheck]
      simp only
      unfold leftover
      rcases cases_of_goesOn_eq_false hgo hrest with ⟨rfl, hend⟩ |
        ⟨ts, rest, more, htag, hdrop, -, rfl⟩ | ⟨name, ts, rest, more, htag, hdrop, -, rfl⟩
      · rw [if_neg (by omega), check]
        exact .accepted _
      · have hstop : stop < tokens.length := by
          cases htag
          exact lt_length_of_drop_eq_cons hdrop
        have hhead : (ts ++ rest).head? ≠ some (.opener .blockClose) := by
          rw [htag.exists_head?]
          simp
        obtain ⟨e, he⟩ := refuses_closeTag hhead tokens stop hdrop
        rw [if_pos hstop, he, check]
        exact .refused (.rejected _ _)
      · have hstop : stop < tokens.length := by
          obtain ⟨_, _, -, htag, -⟩ := htag
          cases htag
          exact lt_length_of_drop_eq_cons hdrop
        rw [if_pos hstop, reads_closeTag htag rest tokens stop hdrop, check]
        exact .refused (.rejected _ _)

/-- **Blocks are checked as with a stack.** The tokens of a source split into texts, comments and
markers. If they are not nested too deep, they make up a template just if the checker accepts the
pieces. Otherwise they are refused for the fault that the checker finds and where it finds it, or at
one of the tokens of the marker that it finds malformed. -/
theorem template_agrees_check (source : String) (lexemes : List Lexeme)
    (hscan : Lexeme.scan source = .ok lexemes)
    (hnesting : nestingError? .none 0 (lexemes.map Lexeme.token) = none) :
    (∃ pieces, Pieces (lexemes.map Lexeme.token) pieces) ∧
    ∀ pieces, Pieces (lexemes.map Lexeme.token) pieces →
      ((∃ t, template (lexemes.map Lexeme.token) = .ok t) ↔ check [] 0 pieces = .accepted) ∧
      (∀ fault pos, check [] 0 pieces = .rejected fault pos →
        template (lexemes.map Lexeme.token) = .error (.failure fault pos)) ∧
      (∀ start stop, check [] 0 pieces = .malformed start stop →
        ∃ e, template (lexemes.map Lexeme.token) = .error e ∧
          start ≤ e.position ∧ e.position < stop) := by
  refine ⟨exists_pieces (Lexeme.arranged_of_scan hscan).alternate, fun pieces hpieces => ?_⟩
  have hagrees := hpieces.agrees hnesting
  generalize template (lexemes.map Lexeme.token) = answer at hagrees
  generalize check [] 0 pieces = verdict at hagrees
  cases hagrees with
  | accepted t =>
    refine ⟨⟨fun _ => rfl, fun _ => ⟨t, rfl⟩⟩, ?_, ?_⟩
    · intro fault pos h
      cases h
    · intro start stop h
      cases h
  | refused hblamed =>
    cases hblamed with
    | rejected fault pos =>
      refine ⟨⟨?_, ?_⟩, ?_, ?_⟩
      · rintro ⟨t, h⟩
        cases h
      · intro h
        cases h
      · intro fault' pos' h
        obtain ⟨rfl, rfl⟩ := Verdict.rejected.inj h
        rfl
      · intro start stop h
        cases h
    | malformed hstart hstop =>
      rename_i e start stop
      refine ⟨⟨?_, ?_⟩, ?_, ?_⟩
      · rintro ⟨t, h⟩
        cases h
      · intro h
        cases h
      · intro fault pos h
        cases h
      · intro start' stop' h
        obtain ⟨rfl, rfl⟩ := Verdict.malformed.inj h
        exact ⟨e, rfl, hstart, hstop⟩

/-- A block that is closed under another name is refused at the closing tag. -/
theorem template_mismatched_refused :
    ∃ lexemes, Lexeme.scan "\x7b\x7b#a\x7d\x7dx\x7b\x7b/b\x7d\x7d" = .ok lexemes ∧
      nestingError? .none 0 (lexemes.map Lexeme.token) = none ∧
      template (lexemes.map Lexeme.token) =
        .error (.failure (.mismatchedClose "b" "a") 4) ∧
      (Fault.mismatchedClose "b" "a").message =
        "closing tag `b` does not match opening tag `a`" := by
  have hscan : (Lexeme.scan "\x7b\x7b#a\x7d\x7dx\x7b\x7b/b\x7d\x7d").map (List.map Lexeme.token) =
      .ok [.opener .blockOpen, .identifier "a", .closer, .text "x", .opener .blockClose,
        .identifier "b", .closer] := by rfl
  obtain ⟨lexemes, hlexemes, htokens⟩ := map_eq_ok.1 hscan
  have hnesting : nestingError? .none 0 (lexemes.map Lexeme.token) = none := by
    rw [htokens]
    rfl
  have hopener : IsBlockOpener "a" [.opener .blockOpen, .identifier "a", .closer] :=
    ⟨_, _, _, _, .plain, .mk .none .none, .path (.one "a"), rfl⟩
  have hclose : IsCloseTag "b" [.opener .blockClose, .identifier "b", .closer] :=
    ⟨_, ["b"], .one "b", .mk .none .none, rfl⟩
  have hpieces : Pieces (lexemes.map Lexeme.token)
      [⟨.opening "a", 3⟩, ⟨.plain, 1⟩, ⟨.closing "b", 3⟩] := by
    rw [htokens]
    exact .cons (.opening hopener) (.cons (.text "x") (.cons (.closing hclose) .nil))
  exact ⟨lexemes, hlexemes, hnesting,
    ((template_agrees_check _ lexemes hlexemes hnesting).2 _ hpieces).2.1 _ _ (by decide), rfl⟩

end Stencil.Grammar
