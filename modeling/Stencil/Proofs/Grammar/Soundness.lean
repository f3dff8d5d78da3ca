import Stencil.Proofs.Outcome
import Stencil.Proofs.Grammar.Tags

/-!
# What the rules read derives what they give

`obeys_bodyWithin`: the tokens that a body takes off derive its statements, whatever the bounds on
nesting are. The bounds themselves are never met by success, since the rule beyond them only
fails.
-/

namespace Stencil.Grammar

open Stencil.Parser

/-! ## Expressions -/

theorem obeys_argumentWith {subexpression : Rule Expression}
    (h : Obeys subexpression DerivesArgument) :
    Obeys (argumentWith subexpression) DerivesArgument := by
  refine (Obeys.choice fun p hp => ?_).withContext _
  simp only [List.mem_cons, List.not_mem_nil, or_false] at hp
  obtain rfl | rfl | rfl := hp
  · apply obeys_literal.mono
    rintro read e ⟨value, rfl, rfl⟩
    exact .literal value
  · exact h
  · apply obeys_path.mono
    rintro read e ⟨names, h, rfl⟩
    exact .path h

/-- An argument behind blanks adds to the arguments. -/
theorem derivesArguments_append {us vs : List Token} {e : Expression} {es : List Expression}
    (h : ∃ blanks ts, us = .whitespace blanks :: ts ∧ DerivesArgument ts e)
    (hs : DerivesArguments vs es) : DerivesArguments (us ++ vs) (e :: es) := by
  obtain ⟨blanks, ts, rfl, h⟩ := h
  exact .cons blanks h hs

theorem obeys_spacedArgument {argument : Rule Expression} (h : Obeys argument DerivesArgument) :
    Obeys (preceded whitespace argument)
      fun read e => ∃ blanks ts, read = .whitespace blanks :: ts ∧ DerivesArgument ts e := by
  apply obeys_whitespace.preceded h
  rintro ls us e ⟨blanks, rfl⟩ he
  exact ⟨blanks, us, rfl, he⟩

theorem obeys_parenthesized {argument : Rule Expression} (h : Obeys argument DerivesArgument) :
    Obeys (parenthesized argument) fun read e => ∃ bs ts name es,
      read = bs ++ (.identifier name :: ts) ∧ IsBlank bs ∧ DerivesArguments ts es ∧
        e = .call name es := by
  have hname : Obeys (preceded optWhitespace identifier)
      fun read name => ∃ bs, read = bs ++ [.identifier name] ∧ IsBlank bs :=
    obeys_optWhitespace.preceded obeys_identifier fun bs us name hb hu => ⟨bs, by rw [hu], hb⟩
  have hmany : Obeys (many (preceded whitespace argument)) DerivesArguments :=
    (obeys_spacedArgument h).many .nil fun _ _ _ _ => derivesArguments_append
  apply (hname.pair hmany).map
  rintro read ⟨name, es⟩ ⟨us, ts, rfl, ⟨bs, rfl, hb⟩, hes⟩
  exact ⟨bs, ts, name, es, by simp, hb, hes, rfl⟩

theorem obeys_beyond {α : Type} (D : List Token → α → Prop) : Obeys (beyond (α := α)) D := by
  intro input pos stop a h
  cases h

theorem obeys_subexpression (calls : Nat) : Obeys (subexpression beyond calls) DerivesArgument := by
  induction calls with
  | zero =>
    have h : Obeys (preceded (token .leftParen) (beyond (α := Expression))) DerivesArgument :=
      (obeys_token .leftParen).preceded (obeys_beyond fun _ _ => False) fun _ _ _ _ h => h.elim
    exact h.withContext _
  | succ calls ih =>
    have hright : Obeys (preceded optWhitespace (token .rightParen))
        fun read _ => ∃ cs, read = cs ++ [.rightParen] ∧ IsBlank cs :=
      obeys_optWhitespace.preceded (obeys_token .rightParen)
        fun cs us _ hc hu => ⟨cs, by rw [hu], hc⟩
    refine Obeys.withContext _ ((obeys_token .leftParen).delimited
      (obeys_parenthesized (obeys_argumentWith ih)) hright ?_)
    rintro ls us rs e rfl ⟨bs, ts, name, es, rfl, hb, hes, rfl⟩ ⟨cs, rfl, hc⟩
    exact .call name hb hes hc

theorem obeys_expressionWithin (calls : Nat) :
    Obeys (expressionWithin beyond calls) DerivesExpression := by
  have hargument := obeys_spacedArgument (obeys_argumentWith (obeys_subexpression calls))
  have hmany1 : Obeys (many1 (preceded whitespace (argumentWith (subexpression beyond calls))))
      fun read es => DerivesArguments read es ∧ es ≠ [] :=
    hargument.many1 .nil fun _ _ _ _ => derivesArguments_append
  refine (Obeys.choice fun p hp => ?_).withContext _
  simp only [List.mem_cons, List.not_mem_nil, or_false] at hp
  obtain rfl | rfl | rfl := hp
  · refine ((obeys_identifier.pair hmany1).map ?_).withContext _
    rintro read ⟨name, es⟩ ⟨us, ts, rfl, rfl, hes, hne⟩
    exact .call name hes hne
  · apply obeys_literal.mono
    rintro read e ⟨value, rfl, rfl⟩
    exact .literal value
  · apply obeys_path.mono
    rintro read e ⟨names, h, rfl⟩
    exact .path h

/-! ## Statements -/

section Statements

variable {expression : Rule Expression} {body deeper : Rule (List Statement)}

/-- What an interpolation reads may still be an else tag, which a body looks for first. -/
def DerivesTagged (ts : List Token) (s : Statement) : Prop :=
  DerivesStatement ts s ∨ IsElseTag ts

theorem obeys_interpolation (h : Obeys expression DerivesExpression) :
    Obeys (interpolation expression) DerivesTagged := by
  refine ((obeys_tag h).map ?_).withContext _
  rintro read e ⟨us, htag, he⟩
  by_cases helse : IsElseTag read
  · exact .inr helse
  · exact .inl (.interpolation htag he helse)

theorem obeys_blockOpener (h : Obeys expression DerivesExpression) :
    Obeys (blockOpener expression) fun read r => ∃ marker us,
      OpensBlock marker r.1 ∧ IsTag marker us read ∧ DerivesExpression us r.2 := by
  have hmarker : Obeys (choice
      [(token (.opener .blockOpen)).map fun _ => false,
       (token (.opener .invertedOpen)).map fun _ => true])
      fun read negated => ∃ marker, OpensBlock marker negated ∧ read = [.opener marker] := by
    refine Obeys.choice fun p hp => ?_
    simp only [List.mem_cons, List.not_mem_nil, or_false] at hp
    obtain rfl | rfl := hp
    · exact (obeys_token _).map fun _ _ h => ⟨_, .plain, h⟩
    · exact (obeys_token _).map fun _ _ h => ⟨_, .negated, h⟩
  have hinside : Obeys (delimited optWhitespace expression closer)
      fun read e => ∃ bs us cs, read = bs ++ (us ++ (cs ++ [.closer])) ∧ IsBlank bs ∧ IsBlank cs ∧
        DerivesExpression us e := by
    apply obeys_optWhitespace.delimited h obeys_closer
    rintro bs us rs e hb he ⟨cs, rfl, hc⟩
    exact ⟨bs, us, cs, rfl, hb, hc, he⟩
  apply (hmarker.pair hinside).mono
  rintro read ⟨negated, e⟩ ⟨_, _, rfl, ⟨marker, hopens, rfl⟩, bs, us, cs, rfl, hb, hc, he⟩
  exact ⟨marker, us, hopens, .mk hb hc, he⟩

theorem obeys_elseBranch (h : Obeys body DerivesBody) : Obeys (elseBranch body) DerivesElse := by
  intro input pos stop elseBody hok
  unfold elseBranch at hok
  cases htag : elseTag input pos with
  | error e =>
    rw [htag] at hok
    simp only [Except.ok.injEq, Prod.mk.injEq] at hok
    obtain ⟨rfl, rfl⟩ := hok
    exact ⟨[], rfl, rfl, .none⟩
  | ok result =>
    obtain ⟨mid, _⟩ := result
    rw [htag] at hok
    obtain ⟨tag, hdrop, hmid, helse⟩ := obeys_elseTag input pos mid _ htag
    obtain ⟨ts, hts, hstop, ss, hss, rfl⟩ := h.map (f := some)
      (E := fun ts r => ∃ ss, DerivesBody ts ss ∧ r = some ss) (fun _ ss h => ⟨ss, h, rfl⟩)
      input mid stop elseBody hok
    refine ⟨tag ++ ts, ?_, ?_, .some helse hss⟩
    · rw [hdrop, hts, List.append_assoc]
    · rw [hstop, hmid, List.length_append, Nat.add_assoc]

theorem obeys_blockEnd (name : String) (start : Nat) :
    Obeys (blockEnd name start) fun read _ => IsCloseTag name read := by
  intro input pos stop _ hok
  unfold blockEnd at hok
  cases htag : closeTag input pos with
  | error e => rw [htag] at hok; cases hok
  | ok result =>
    obtain ⟨next, closing⟩ := result
    rw [htag] at hok
    simp only at hok
    by_cases hclosing : closing = name
    · rw [if_pos hclosing] at hok
      simp only [Except.ok.injEq, Prod.mk.injEq, and_true] at hok
      obtain ⟨read, hdrop, hstop, hclose⟩ := obeys_closeTag input pos next closing htag
      exact ⟨read, hok ▸ hdrop, hok ▸ hstop, hclosing ▸ hclose⟩
    · rw [if_neg hclosing] at hok
      cases hok

/-- A block is read in four steps, with no second else tag before the last one. -/
theorem blockWith_eq_ok {input : List Token} {start stop : Nat} {s : Statement} :
    blockWith expression body input start = .ok (stop, s) ↔
      ∃ p₁ negated e p₂ ss p₃ elseBody,
        withContext (blockOpener expression) "section" input start = .ok (p₁, negated, e) ∧
        body input p₁ = .ok (p₂, ss) ∧ elseBranch body input p₂ = .ok (p₃, elseBody) ∧
        applies elseTag input p₃ = false ∧ blockEnd e.blockName start input p₃ = .ok (stop, ()) ∧
        s = .block e negated ss elseBody := by
  unfold blockWith
  constructor
  · intro hok
    obtain ⟨⟨p₁, negated, e⟩, hopen, hok⟩ := bind_eq_ok.1 hok
    obtain ⟨⟨p₂, ss⟩, hss, hok⟩ := bind_eq_ok.1 hok
    obtain ⟨⟨p₃, elseBody⟩, helse, hok⟩ := bind_eq_ok.1 hok
    refine ⟨p₁, negated, e, p₂, ss, p₃, elseBody, hopen, hss, helse, ?_⟩
    cases hsecond : applies elseTag input p₃ with
    | true =>
      simp only [hsecond, if_true] at hok
      cases hok
    | false =>
      simp only [hsecond, Bool.false_eq_true, if_false] at hok
      obtain ⟨⟨p₄, _⟩, hend, hok⟩ := bind_eq_ok.1 hok
      obtain ⟨rfl, rfl⟩ := Prod.mk.inj (Except.ok.inj hok)
      exact ⟨rfl, hend, rfl⟩
  · rintro ⟨p₁, negated, e, p₂, ss, p₃, elseBody, hopen, hss, helse, hsecond, hend, rfl⟩
    simp only [hopen, ok_bind, hss, helse, hsecond, Bool.false_eq_true, if_false, hend]
    rfl

theorem obeys_blockWith (hexpression : Obeys expression DerivesExpression)
    (hbody : Obeys body DerivesBody) : Obeys (blockWith expression body) DerivesStatement := by
  intro input start stop s hok
  obtain ⟨p₁, negated, e, p₂, ss, p₃, elseBody, hopen, hss, helse, -, hend, rfl⟩ :=
    blockWith_eq_ok.1 hok
  obtain ⟨opening, hd₁, hp₁, marker, us, hmarker, htag, he⟩ :=
    (obeys_blockOpener hexpression).withContext "section" input start p₁ _ hopen
  obtain ⟨ts, hd₂, hp₂, hts⟩ := hbody input p₁ p₂ ss hss
  obtain ⟨vs, hd₃, hp₃, hvs⟩ := obeys_elseBranch hbody input p₂ p₃ elseBody helse
  obtain ⟨closing, hd₄, hp₄, hclose⟩ := obeys_blockEnd e.blockName start input p₃ stop () hend
  refine ⟨opening ++ (ts ++ (vs ++ closing)), ?_, ?_, .block hmarker htag he hts hvs hclose⟩
  · rw [hd₁, hd₂, hd₃, hd₄]
    simp only [List.append_assoc]
  · simp only [List.length_append]
    omega

theorem obeys_statementWith (hexpression : Obeys expression DerivesExpression)
    (hbody : Obeys body DerivesBody) : Obeys (statementWith expression body) DerivesTagged := by
  refine Obeys.choice fun p hp => ?_
  simp only [List.mem_cons, List.not_mem_nil, or_false] at hp
  obtain rfl | rfl | rfl | rfl := hp
  · exact (obeys_blockWith hexpression hbody).mono fun _ _ h => .inl h
  · exact obeys_interpolation hexpression
  · apply Obeys.satisfy.mono
    rintro read s ⟨item, hitem, rfl⟩
    cases item <;> cases hitem
    exact .inl (.text _)
  · apply Obeys.satisfy.mono
    rintro read s ⟨item, hitem, rfl⟩
    cases item <;> cases hitem
    exact .inl (.comment _)

end Statements

/-! ## Bodies -/

theorem goesOn_eq_true {input : List Token} {pos : Nat} :
    goesOn input pos = true ↔
      pos < input.length ∧ applies closeTag input pos = false ∧
        applies elseTag input pos = false := by
  unfold goesOn
  simp [and_assoc]

/-- Where a body goes on, no else tag stands. -/
theorem not_isElseTag_of_goesOn {input ts rest : List Token} {pos : Nat}
    (h : goesOn input pos = true) (hdrop : input.drop pos = ts ++ rest) : ¬ IsElseTag ts := by
  intro htag
  obtain ⟨e, he⟩ := applies_eq_false.1 (goesOn_eq_true.1 h).2.2
  rw [reads_elseTag htag rest input pos hdrop] at he
  cases he

theorem obeys_statements {statement : Rule Statement} (h : Obeys statement DerivesTagged) :
    Obeys (statements statement) DerivesBody := by
  intro input pos stop ss hok
  unfold statements at hok
  generalize input.length - pos = limit at hok
  induction limit generalizing pos stop ss with
  | zero =>
    obtain ⟨rfl, rfl⟩ := Prod.mk.inj (Except.ok.inj hok)
    exact ⟨[], rfl, rfl, .nil⟩
  | succ limit ih =>
    unfold statementsFrom at hok
    cases hgo : goesOn input pos with
    | false =>
      rw [hgo, if_neg (by simp)] at hok
      obtain ⟨rfl, rfl⟩ := Prod.mk.inj (Except.ok.inj hok)
      exact ⟨[], rfl, rfl, .nil⟩
    | true =>
      rw [hgo, if_pos rfl] at hok
      obtain ⟨⟨next, s⟩, hs, hok⟩ := bind_eq_ok.1 hok
      obtain ⟨⟨stop', ss'⟩, hss, hok⟩ := bind_eq_ok.1 hok
      obtain ⟨rfl, rfl⟩ := Prod.mk.inj (Except.ok.inj hok)
      obtain ⟨ts, hdrop, hnext, hts⟩ := h input pos next s hs
      obtain ⟨us, hus, hstop, hss⟩ := ih next stop' ss' hss
      have hts := hts.resolve_right (not_isElseTag_of_goesOn hgo hdrop)
      refine ⟨ts ++ us, ?_, ?_, .cons hts hss⟩
      · rw [hdrop, hus, List.append_assoc]
      · rw [hstop, hnext, List.length_append, Nat.add_assoc]

theorem obeys_bodyWith {expression : Rule Expression} (h : Obeys expression DerivesExpression)
    (blocks : Nat) : Obeys (bodyWith expression beyond blocks) DerivesBody := by
  induction blocks with
  | zero => exact obeys_statements (obeys_statementWith h (obeys_beyond _))
  | succ blocks ih => exact obeys_statements (obeys_statementWith h ih)

theorem obeys_bodyWithin (calls blocks : Nat) :
    Obeys (bodyWithin beyond beyond calls blocks) DerivesBody :=
  obeys_bodyWith (obeys_expressionWithin calls) blocks

end Stencil.Grammar
