import Stencil.Proofs.Grammar.Soundness

/-!
# What is derived is read

`DerivesBody.reads`: wherever tokens that derive a body stand before the end, a closing tag or an
else tag, the rule for bodies takes them off and gives the statements. The bounds on nesting only
have to reach the number of tokens, since every level of nesting takes some.

The rules are greedy and take the first alternative that works. That they do not take a wrong one
is seen from the first token in each case but one: a lone name is tried as a helper call first,
which fails where no argument follows.
-/

namespace Stencil.Grammar

open Stencil.Parser

/-! ## Arguments -/

/-- Arguments end before a closer or a right parenthesis, with blanks or without. -/
inductive EndsArguments : List Token → Prop
  | mk {bs : List Token} {t : Token} (more : List Token) : IsBlank bs →
    t = .closer ∨ t = .rightParen → EndsArguments (bs ++ t :: more)

theorem EndsArguments.head?_ne_dot {rest : List Token} (h : EndsArguments rest) :
    rest.head? ≠ some .dot := by
  obtain ⟨more, hb, ht⟩ := h
  refine head?_blank_append_ne_dot hb ?_ more
  rintro rfl
  simp at ht

theorem DerivesArguments.head?_ne_dot {ts rest : List Token} {es : List Expression}
    (h : DerivesArguments ts es) (hrest : EndsArguments rest) :
    (ts ++ rest).head? ≠ some .dot := by
  cases h with
  | nil => exact hrest.head?_ne_dot
  | cons blanks _ _ => simp

section Arguments

variable {deeper : Rule Expression}

theorem refuses_subexpression (calls : Nat) {rest : List Token}
    (h : rest.head? ≠ some .leftParen) : Refuses (subexpression deeper calls) rest := by
  have hleft : Refuses (token .leftParen) rest := refuses_token h
  cases calls with
  | zero =>
    have hrule : Refuses (preceded (token .leftParen) deeper) rest := .preceded_left _ hleft
    exact hrule.withContext _
  | succ calls => exact (Refuses.delimited_left _ _ hleft).withContext _

theorem refuses_argumentWith (calls : Nat) {t : Token} (ht : t = .closer ∨ t = .rightParen)
    (more : List Token) : Refuses (argumentWith (subexpression deeper calls)) (t :: more) := by
  refine (Refuses.choice fun p hp => ?_).withContext _
  simp only [List.mem_cons, List.not_mem_nil, or_false] at hp
  obtain rfl | rfl | rfl := hp
  · exact refuses_literal (by rintro value h; obtain rfl | rfl := ht <;> cases h)
  · exact refuses_subexpression calls (by rintro h; obtain rfl | rfl := ht <;> cases h)
  · refine (Refuses.map _ (.pair_left _ (refuses_identifier ?_))).withContext _
    rintro name h
    obtain rfl | rfl := ht <;> cases h

/-- No argument follows where arguments end. -/
theorem EndsArguments.refuses {rest : List Token} (h : EndsArguments rest) (calls : Nat) :
    Refuses (preceded whitespace (argumentWith (subexpression deeper calls))) rest := by
  obtain ⟨more, hb, ht⟩ := h
  rename_i bs t
  cases hb with
  | none =>
    refine .preceded_left _ (refuses_whitespace (unspaced_cons ?_ more))
    rintro blanks rfl
    simp at ht
  | one blanks =>
    exact .preceded_right (reads_whitespace blanks _) (refuses_argumentWith calls ht more)

theorem reads_spacedArgument {argument : Rule Expression} {ts rest : List Token} {e : Expression}
    (blanks : String) (h : Reads argument ts e rest) :
    Reads (preceded whitespace argument) (.whitespace blanks :: ts) e rest :=
  (reads_whitespace blanks _).preceded h

theorem reads_parenthesized {argument : Rule Expression} {bs ts rest : List Token}
    {es : List Expression} (name : String) (hb : IsBlank bs)
    (h : ReadsAll (preceded whitespace argument) ts es rest) :
    Reads (parenthesized argument) (bs ++ (.identifier name :: ts)) (.call name es) rest := by
  have hname : Reads (preceded optWhitespace identifier) (bs ++ [.identifier name]) name
      (ts ++ rest) :=
    (reads_optWhitespace hb (unspaced_cons (by simp) _)).preceded (reads_identifier name _)
  have hcall := hname.pair h.many
  rw [List.append_assoc] at hcall
  exact hcall.map _

mutual

theorem DerivesArgument.reads {ts : List Token} {e : Expression} :
    DerivesArgument ts e → ∀ calls, ts.length ≤ calls → ∀ rest, rest.head? ≠ some .dot →
      Reads (argumentWith (subexpression deeper calls)) ts e rest
  | .literal value, _, _, rest, _ =>
    (Reads.choice (.here (reads_literal value rest) _)).withContext _
  | @DerivesArgument.path us names h, calls, _, rest, hrest => by
    obtain ⟨name, hname⟩ := h.exists_head? rest
    have hliteral : Refuses literal (us ++ rest) := refuses_literal (by rw [hname]; simp)
    have hparen : Refuses (subexpression deeper calls) (us ++ rest) :=
      refuses_subexpression calls (by rw [hname]; simp)
    have hpath := ReadsAmong.here (reads_path h hrest) []
    exact (Reads.choice (.later hliteral (.later hparen hpath))).withContext _
  | @DerivesArgument.call name bs us cs es hb hus hc, calls, hlen, rest, _ => by
    cases calls with
    | zero => simp at hlen
    | succ calls =>
      simp only [List.length_cons, List.length_append] at hlen
      have hends : EndsArguments (cs ++ [.rightParen] ++ rest) := by
        rw [List.append_assoc]
        exact .mk rest hc (.inr rfl)
      have hinside := reads_parenthesized name hb (hus.reads calls (by omega) _ hends)
      have hright : Reads (preceded optWhitespace (token .rightParen)) (cs ++ [.rightParen]) ()
          rest := (reads_optWhitespace hc (unspaced_cons (by simp) _)).preceded (reads_token _ rest)
      have hcall :=
        ((reads_token .leftParen _).delimited hinside hright).withContext "subexpression"
      have hliteral : Refuses literal
          (.leftParen :: (bs ++ (.identifier name :: us) ++ (cs ++ [.rightParen])) ++ rest) :=
        refuses_literal (by simp)
      exact (Reads.choice (.later hliteral (.here hcall _))).withContext _

theorem DerivesArguments.reads {ts : List Token} {es : List Expression} :
    DerivesArguments ts es → ∀ calls, ts.length ≤ calls → ∀ rest, EndsArguments rest →
      ReadsAll (preceded whitespace (argumentWith (subexpression deeper calls))) ts es rest
  | .nil, calls, _, _, hrest => .nil (hrest.refuses calls)
  | .cons blanks h hs, calls, hlen, rest, hrest => by
    simp only [List.length_append, List.length_cons] at hlen
    have hfirst := h.reads calls (by omega) _ (hs.head?_ne_dot hrest)
    have hmore := hs.reads calls (by omega) rest hrest
    exact .cons (reads_spacedArgument blanks hfirst) (by simp) hmore

end

/-! ## Expressions -/

theorem refuses_helperCall {argument : Rule Expression} {rest : List Token}
    (h : ∀ name, rest.head? ≠ some (.identifier name)) : Refuses (helperCall argument) rest :=
  (Refuses.map _ (.pair_left _ (refuses_identifier h))).withContext _

/-- A name with no argument behind it is no helper call. -/
theorem refuses_helperCall_name {argument : Rule Expression} {rest : List Token} (name : String)
    (h : Refuses (preceded whitespace argument) rest) :
    Refuses (helperCall argument) (.identifier name :: rest) :=
  (Refuses.map _ (.pair_right (reads_identifier name rest) h.many1)).withContext _

theorem DerivesExpression.reads {ts cs : List Token} {e : Expression} (h : DerivesExpression ts e)
    (calls : Nat) (hlen : ts.length ≤ calls) (hc : IsBlank cs) (more : List Token) :
    Reads (expressionWithin deeper calls) ts e (cs ++ .closer :: more) := by
  have hends : EndsArguments (cs ++ .closer :: more) := .mk more hc (.inl rfl)
  refine (Reads.choice ?_).withContext _
  cases h with
  | call name h hne =>
    cases h with
    | nil => exact absurd rfl hne
    | cons blanks h hs =>
      simp only [List.length_append, List.length_cons] at hlen
      have hfirst : Reads (argumentWith (subexpression deeper calls)) _ _ _ :=
        h.reads calls (by omega) _ (hs.head?_ne_dot hends)
      have hmany1 := ReadsAll.many1 (reads_spacedArgument blanks hfirst)
        (hs.reads calls (by omega) _ hends)
      exact .here ((((reads_identifier name _).pair hmany1).map _).withContext _) _
  | literal value =>
    exact .later (refuses_helperCall (by simp)) (.here (reads_literal value _) _)
  | path h =>
    have hpath := reads_path h hends.head?_ne_dot
    obtain ⟨first, hfirst⟩ := h.exists_head? (cs ++ .closer :: more)
    refine .later ?_ (.later (refuses_literal (by rw [hfirst]; simp)) (.here hpath _))
    cases h with
    | one name => exact refuses_helperCall_name name (hends.refuses calls)
    | cons name _ =>
      exact refuses_helperCall_name name
        (.preceded_left _ (refuses_whitespace (unspaced_cons (by simp) _)))

theorem DerivesExpression.unspaced {ts : List Token} {e : Expression} (h : DerivesExpression ts e)
    (more : List Token) : Unspaced (ts ++ more) := by
  cases h with
  | call name _ _ => exact unspaced_cons (by simp) _
  | literal value => exact unspaced_cons (by simp) _
  | path h => exact h.unspaced more

end Arguments

/-! ## Where bodies end -/

def Halts (rest : List Token) : Prop :=
  ∀ input pos, input.drop pos = rest → goesOn input pos = false

theorem halts_nil : Halts [] := by
  intro input pos h
  have hpos : ¬ pos < input.length := by
    rw [List.drop_eq_nil_iff] at h
    omega
  unfold goesOn
  rw [decide_eq_false hpos]
  rfl

theorem halts_closeTag {name : String} {ts : List Token} (h : IsCloseTag name ts)
    (rest : List Token) : Halts (ts ++ rest) := by
  intro input pos hdrop
  have := applies_eq_true.2 ⟨_, reads_closeTag h rest input pos hdrop⟩
  unfold goesOn
  simp [this]

theorem halts_elseTag {ts : List Token} (h : IsElseTag ts) (rest : List Token) :
    Halts (ts ++ rest) := by
  intro input pos hdrop
  have := applies_eq_true.2 ⟨_, reads_elseTag h rest input pos hdrop⟩
  unfold goesOn
  simp [this]

theorem refuses_elseTag_of_head? {rest : List Token}
    (h : rest.head? ≠ some (.opener .interpolation)) : Refuses elseTag rest :=
  .delimited_left _ _ (refuses_opener h)

theorem refuses_closeTag {rest : List Token} (h : rest.head? ≠ some (.opener .blockClose)) :
    Refuses closeTag rest :=
  .delimited_left _ _ (refuses_opener h)

/-- Both an else tag and another tag would end at the first closer. -/
theorem refuses_elseTag_of_isTag {us ts : List Token} (htag : IsTag .interpolation us ts)
    (hus : Unclosed us) (hne : ¬ IsElseTag ts) (rest : List Token) :
    Refuses elseTag (ts ++ rest) := by
  intro input pos hdrop
  cases hres : elseTag input pos with
  | error e => exact ⟨e, rfl⟩
  | ok result =>
    obtain ⟨stop, _⟩ := result
    obtain ⟨read, hread, -, helse⟩ := obeys_elseTag input pos stop _ hres
    obtain ⟨vs, hvs, rfl⟩ := htag.exists_unclosed hus
    obtain ⟨ws, hws, rfl⟩ := helse.exists_unclosed (by simp [Unclosed])
    rw [hdrop, List.append_assoc, List.append_assoc] at hread
    obtain ⟨rfl, -⟩ := hvs.append_cons_inj hws hread
    exact absurd helse hne

theorem IsTag.exists_head? {marker : Marker} {us ts : List Token} (h : IsTag marker us ts)
    (rest : List Token) : (ts ++ rest).head? = some (.opener marker) := by
  cases h
  rfl

/-- No statement begins like a closing tag. -/
theorem DerivesStatement.exists_head? {ts : List Token} {s : Statement} (h : DerivesStatement ts s)
    (rest : List Token) : ∃ t, (ts ++ rest).head? = some t ∧ t ≠ .opener .blockClose := by
  cases h with
  | text value => exact ⟨_, rfl, by simp⟩
  | comment value => exact ⟨_, rfl, by simp⟩
  | interpolation htag _ _ => exact ⟨_, htag.exists_head? rest, by simp⟩
  | block hopens htag _ _ _ _ =>
    rw [List.append_assoc]
    exact ⟨_, htag.exists_head? _, by cases hopens <;> simp⟩

theorem DerivesStatement.ne_nil {ts : List Token} {s : Statement} (h : DerivesStatement ts s) :
    ts ≠ [] := by
  rintro rfl
  obtain ⟨t, ht, -⟩ := h.exists_head? []
  cases ht

theorem DerivesStatement.refuses_elseTag {ts : List Token} {s : Statement}
    (h : DerivesStatement ts s) (rest : List Token) : Refuses elseTag (ts ++ rest) := by
  cases h with
  | text value => exact refuses_elseTag_of_head? (by simp)
  | comment value => exact refuses_elseTag_of_head? (by simp)
  | interpolation htag he hne => exact refuses_elseTag_of_isTag htag he.unclosed hne rest
  | block hopens htag _ _ _ _ =>
    refine refuses_elseTag_of_head? ?_
    rw [List.append_assoc, htag.exists_head?]
    cases hopens <;> simp

/-- Where a statement is derived, a body goes on. -/
theorem DerivesStatement.goesOn {ts : List Token} {s : Statement} (h : DerivesStatement ts s)
    {rest input : List Token} {pos : Nat} (hdrop : input.drop pos = ts ++ rest) :
    goesOn input pos = true := by
  obtain ⟨t, ht, hne⟩ := h.exists_head? rest
  refine goesOn_eq_true.2 ⟨?_, ?_, ?_⟩
  · have hpos := List.length_pos_iff.2 h.ne_nil
    have hlen := length_sub_eq hdrop
    rw [List.length_append] at hlen
    omega
  · exact applies_eq_false.2 (refuses_closeTag (by simpa [ht] using hne) input pos hdrop)
  · exact applies_eq_false.2 (h.refuses_elseTag rest input pos hdrop)

/-! ## Statements -/

/-- Statements, as many as there can be, take off `read` and give `ss`. -/
def ReadsStatements (statement : Rule Statement) (read : List Token) (ss : List Statement)
    (rest : List Token) : Prop :=
  ∀ input pos limit, input.drop pos = read ++ rest → read.length + rest.length ≤ limit →
    statementsFrom statement input limit pos = .ok (pos + read.length, ss)

theorem ReadsStatements.nil {statement : Rule Statement} {rest : List Token} (h : Halts rest) :
    ReadsStatements statement [] [] rest := by
  intro input pos limit hdrop _
  cases limit with
  | zero => rfl
  | succ limit =>
    unfold statementsFrom
    rw [h input pos hdrop]
    rfl

theorem ReadsStatements.cons {statement : Rule Statement} {us vs rest : List Token} {s : Statement}
    {ss : List Statement} (hus : DerivesStatement us s)
    (hs : Reads statement us s (vs ++ rest)) (hss : ReadsStatements statement vs ss rest) :
    ReadsStatements statement (us ++ vs) (s :: ss) rest := by
  intro input pos limit hdrop hlimit
  have hpos := List.length_pos_iff.2 hus.ne_nil
  rw [List.append_assoc] at hdrop
  rw [List.length_append] at hlimit
  cases limit with
  | zero => omega
  | succ limit =>
    unfold statementsFrom
    rw [hus.goesOn hdrop, if_pos rfl, hs input pos hdrop, ok_bind]
    simp only
    rw [hss input _ limit (drop_add_length hdrop) (by omega), List.length_append, ← Nat.add_assoc]
    rfl

theorem ReadsStatements.statements {statement : Rule Statement} {ts rest : List Token}
    {ss : List Statement} (h : ReadsStatements statement ts ss rest) :
    Reads (statements statement) ts ss rest := by
  intro input pos hdrop
  have hlimit : ts.length + rest.length = input.length - pos := by
    rw [length_sub_eq hdrop, List.length_append]
  exact h input pos _ hdrop (Nat.le_of_eq hlimit)

section Statements

variable {deeperCalls : Rule Expression} {deeperBodies : Rule (List Statement)} {calls : Nat}

/-- The rule for the bodies in a body that `blocks` more levels of nesting are left for. -/
def innerBody (expression : Rule Expression) (deeper : Rule (List Statement)) :
    Nat → Rule (List Statement)
  | 0 => deeper
  | blocks + 1 => bodyWith expression deeper blocks

theorem bodyWith_eq (expression : Rule Expression) (deeper : Rule (List Statement)) (blocks : Nat) :
    bodyWith expression deeper blocks =
      statements (statementWith expression (innerBody expression deeper blocks)) := by
  cases blocks <;> rfl

theorem reads_blockOpener {expression : Rule Expression} {marker : Marker} {negated : Bool}
    {us ts rest : List Token} {e : Expression} (hopens : OpensBlock marker negated)
    (htag : IsTag marker us ts) (hus : ∀ more, Unspaced (us ++ more))
    (he : ∀ cs, IsBlank cs → ∀ more, Reads expression us e (cs ++ .closer :: more)) :
    Reads (blockOpener expression) ts (negated, e) rest := by
  obtain ⟨hb, hc⟩ := htag
  rename_i bs cs
  have hinside : Reads (delimited optWhitespace expression closer) (bs ++ (us ++ (cs ++ [.closer])))
      e rest := by
    refine (reads_optWhitespace hb (hus _)).delimited ?_ (reads_closer hc rest)
    rw [List.append_assoc]
    exact he cs hc rest
  show Reads (blockOpener expression) ([.opener marker] ++ (bs ++ (us ++ (cs ++ [.closer]))))
    (negated, e) rest
  refine Reads.pair (Reads.choice ?_) hinside
  cases hopens with
  | plain => exact .here ((reads_token _ _).map _) _
  | negated => exact .later ((refuses_token (by simp)).map _) (.here ((reads_token _ _).map _) _)

theorem reads_blockEnd {name : String} {ts : List Token} (start : Nat) (h : IsCloseTag name ts)
    (rest : List Token) : Reads (blockEnd name start) ts () rest := by
  intro input pos hdrop
  unfold blockEnd
  rw [reads_closeTag h rest input pos hdrop]
  exact if_pos rfl

/-- A block is refused where no opener of blocks stands. -/
theorem refuses_blockWith {expression : Rule Expression} {body : Rule (List Statement)}
    {rest : List Token} (hplain : rest.head? ≠ some (.opener .blockOpen))
    (hnegated : rest.head? ≠ some (.opener .invertedOpen)) :
    Refuses (blockWith expression body) rest := by
  have hmarker : Refuses (blockOpener expression) rest := by
    refine .pair_left _ (Refuses.choice fun p hp => ?_)
    simp only [List.mem_cons, List.not_mem_nil, or_false] at hp
    obtain rfl | rfl := hp
    · exact (refuses_token hplain).map _
    · exact (refuses_token hnegated).map _
  intro input pos hdrop
  obtain ⟨e, he⟩ := hmarker.withContext "section" input pos hdrop
  unfold blockWith
  rw [he]
  exact ⟨e, rfl⟩

theorem refuses_interpolation {expression : Rule Expression} {rest : List Token}
    (h : rest.head? ≠ some (.opener .interpolation)) : Refuses (interpolation expression) rest :=
  ((Refuses.delimited_left _ _ (refuses_opener h)).map _).withContext _

theorem IsTag.length_lt {marker : Marker} {us ts : List Token} (h : IsTag marker us ts) :
    us.length + 1 < ts.length := by
  cases h
  simp only [List.length_cons, List.length_append]
  omega

/-- A body in a block ends before the else branch and before the closing tag. -/
theorem DerivesElse.halts {vs closing : List Token} {elseBody : Option (List Statement)}
    {name : String} (h : DerivesElse vs elseBody) (hclose : IsCloseTag name closing)
    (rest : List Token) : Halts (vs ++ (closing ++ rest)) := by
  cases h with
  | none => exact halts_closeTag hclose rest
  | some htag _ =>
    rw [List.append_assoc]
    exact halts_elseTag htag _

theorem IsCloseTag.refuses_elseTag {name : String} {closing : List Token}
    (h : IsCloseTag name closing) (rest : List Token) : Refuses elseTag (closing ++ rest) := by
  obtain ⟨us, names, -, htag, -⟩ := h
  refine refuses_elseTag_of_head? ?_
  rw [htag.exists_head?]
  simp

theorem reads_tag_expression (deeper : Rule Expression) {marker : Marker} {us ts : List Token}
    {e : Expression} (htag : IsTag marker us ts) (he : DerivesExpression us e) {calls : Nat}
    (hcalls : ts.length ≤ calls) (rest : List Token) :
    Reads (delimited (opener marker) (expressionWithin deeper calls) closer) ts e rest := by
  have hlen := htag.length_lt
  exact reads_tag htag he.unspaced (fun cs hc more => he.reads calls (by omega) hc more) rest

/-- A tag holds one expression only, as the rule reads only one. -/
theorem IsTag.expression_unique {marker : Marker} {us vs ts : List Token} {e e' : Expression}
    (htag : IsTag marker us ts) (he : DerivesExpression us e)
    (htag' : IsTag marker vs ts) (he' : DerivesExpression vs e') : e = e' := by
  have hreads := reads_tag_expression beyond htag he (Nat.le_refl _) []
  have hreads' := reads_tag_expression beyond htag' he' (Nat.le_refl _) []
  have hdrop : ts.drop 0 = ts ++ [] := by rw [List.append_nil, List.drop_zero]
  have heq := (hreads ts 0 hdrop).symm.trans (hreads' ts 0 hdrop)
  exact (Prod.mk.inj (Except.ok.inj heq)).2

mutual

theorem DerivesStatement.reads {ts : List Token} {s : Statement} :
    DerivesStatement ts s → ∀ blocks, ts.length ≤ blocks → ts.length ≤ calls → ∀ rest,
      Reads (statementWith (expressionWithin deeperCalls calls)
        (innerBody (expressionWithin deeperCalls calls) deeperBodies blocks)) ts s rest
  | .text value, _, _, _, rest => by
    have htext : Reads textStatement [.text value] (.text value) rest := by
      refine .satisfy ?_ rest
      rfl
    exact Reads.choice (.later (refuses_blockWith (by simp) (by simp))
      (.later (refuses_interpolation (by simp)) (.here htext _)))
  | .comment value, _, _, _, rest => by
    have htext : Refuses textStatement ([.comment value] ++ rest) := .satisfy (by simp)
    have hcomment : Reads commentStatement [.comment value] (.comment value) rest := by
      refine .satisfy ?_ rest
      rfl
    exact Reads.choice (.later (refuses_blockWith (by simp) (by simp))
      (.later (refuses_interpolation (by simp)) (.later htext (.here hcomment _))))
  | .interpolation htag he _, _, _, hcalls, rest => by
    have hhead := htag.exists_head? rest
    have htagged := reads_tag_expression deeperCalls htag he hcalls rest
    exact Reads.choice (.later (refuses_blockWith (by rw [hhead]; simp) (by rw [hhead]; simp))
      (.here ((htagged.map _).withContext _) _))
  | @DerivesStatement.block marker negated us opening ts vs closing e body elseBody hopens htag he
      hbody helse hclose, blocks, hblocks, hcalls, rest => by
    refine Reads.choice (.here ?_ _)
    intro input start hdrop
    simp only [List.length_append] at hblocks hcalls
    have hlen := htag.length_lt
    cases blocks with
    | zero => omega
    | succ blocks =>
      have hopen : Reads (withContext (blockOpener (expressionWithin deeperCalls calls)) "section")
          opening (negated, e) (ts ++ (vs ++ (closing ++ rest))) :=
        (reads_blockOpener hopens htag he.unspaced fun cs hc more =>
          he.reads calls (by omega) hc more).withContext _
      have hss := (hbody.reads blocks (by omega) (by omega) _ (helse.halts hclose rest)).statements
      rw [← bodyWith_eq] at hss
      have helse := helse.reads blocks (by omega) (by omega) hclose rest
      have hend := reads_blockEnd start hclose rest
      simp only [List.append_assoc] at hdrop
      have hdrop₁ := drop_add_length hdrop
      have hdrop₂ := drop_add_length hdrop₁
      have hdrop₃ := drop_add_length hdrop₂
      refine blockWith_eq_ok.2 ⟨_, negated, e, _, body, _, elseBody, hopen input start hdrop,
        hss input _ hdrop₁, helse input _ hdrop₂, ?_, ?_, rfl⟩
      · exact applies_eq_false.2 (hclose.refuses_elseTag rest input _ hdrop₃)
      · rw [hend input _ hdrop₃]
        simp [Nat.add_assoc]

theorem DerivesBody.reads {ts : List Token} {ss : List Statement} :
    DerivesBody ts ss → ∀ blocks, ts.length ≤ blocks → ts.length ≤ calls → ∀ rest, Halts rest →
      ReadsStatements (statementWith (expressionWithin deeperCalls calls)
        (innerBody (expressionWithin deeperCalls calls) deeperBodies blocks)) ts ss rest
  | .nil, _, _, _, _, hrest => .nil hrest
  | .cons h hs, blocks, hblocks, hcalls, rest, hrest => by
    rw [List.length_append] at hblocks hcalls
    exact .cons h (h.reads blocks (by omega) (by omega) _)
      (hs.reads blocks (by omega) (by omega) rest hrest)

theorem DerivesElse.reads {ts : List Token} {elseBody : Option (List Statement)} :
    DerivesElse ts elseBody → ∀ blocks, ts.length ≤ blocks → ts.length ≤ calls →
      ∀ {name closing}, IsCloseTag name closing → ∀ rest,
      Reads (elseBranch (bodyWith (expressionWithin deeperCalls calls) deeperBodies blocks)) ts
        elseBody (closing ++ rest)
  | .none, _, _, _, _, _, hclose, rest => by
    intro input pos hdrop
    obtain ⟨e, he⟩ := hclose.refuses_elseTag rest input pos hdrop
    unfold elseBranch
    rw [he]
    rfl
  | .some htag hbody, blocks, hblocks, hcalls, _, _, hclose, rest => by
    intro input pos hdrop
    rw [List.length_append] at hblocks hcalls
    rw [List.append_assoc] at hdrop
    have hss := (hbody.reads blocks (by omega) (by omega) _ (halts_closeTag hclose rest)).statements
    rw [← bodyWith_eq] at hss
    unfold elseBranch
    rw [reads_elseTag htag _ input pos hdrop]
    simp only
    rw [hss.map some input _ (drop_add_length hdrop), List.length_append, Nat.add_assoc]

end

end Statements

/-! ## Bodies -/

/-- A body that is derived is read where it stands alone. -/
theorem DerivesBody.body_eq_ok {ts : List Token} {ss : List Statement} (h : DerivesBody ts ss) :
    body ts 0 = .ok (ts.length, ss) := by
  have hreads : Reads (bodyWithin beyond beyond ts.length ts.length) ts ss [] := by
    unfold bodyWithin
    rw [bodyWith_eq]
    exact (h.reads ts.length (Nat.le_refl _) (Nat.le_refl _) [] halts_nil).statements
  unfold body
  rw [hreads ts 0 (List.append_nil ts).symm, Nat.zero_add]

/-- A body that takes up all tokens is read exactly if it is derived. -/
theorem body_eq_ok_iff {ts : List Token} {ss : List Statement} :
    body ts 0 = .ok (ts.length, ss) ↔ DerivesBody ts ss := by
  constructor
  · intro hok
    obtain ⟨read, hread, -, hss⟩ := obeys_bodyWithin _ _ ts 0 ts.length ss hok
    rw [List.drop_length, List.append_nil, List.drop_zero] at hread
    exact hread ▸ hss
  · exact DerivesBody.body_eq_ok

end Stencil.Grammar
