import Mathlib.Data.List.Chain
import Stencil.Proofs.Grammar.Squeezed
import Stencil.Proofs.Grammar.Template
import Stencil.Proofs.Lexeme.Splits

/-!
# Where blanks stand beside delimiters does not matter

`template_respaced`: in the tokens of a source, blanks behind an opener or a left parenthesis and
before a closer or a right one can be put in and taken out, and blanks anywhere can be replaced by
others, without a change to what the tokens make up.

`Respaced ts us` relates tokens that differ by any number of such changes. It is symmetric, so that
it is enough to carry derivations over in one direction: `DerivesBody.respaces`. Where two tokens of
blanks stood side by side, one of them could make up for the other. That is excluded, as no scan
gives such tokens.
-/

namespace Stencil

namespace Token

/-- Blanks behind the token are optional. -/
def looseAfter : Token → Bool
  | opener _ => true
  | leftParen => true
  | _ => false

/-- Blanks before the token are optional. -/
def looseBefore : Token → Bool
  | closer => true
  | rightParen => true
  | _ => false

/-- The token is no blanks, and no blanks can come before it. -/
def isFirm : Token → Bool
  | whitespace _ => false
  | t => !t.looseBefore

theorem looseBefore_of_looseAfter {t : Token} (h : t.looseAfter = true) :
    t.looseBefore = false := by
  cases t with
  | closer => cases h
  | rightParen => cases h
  | _ => rfl

theorem looseBefore_of_isFirm {t : Token} (h : t.isFirm = true) : t.looseBefore = false := by
  cases t with
  | closer => cases h
  | rightParen => cases h
  | _ => rfl

end Token

namespace Grammar

/-! ## Blanks put in and taken out -/

inductive Respaced : List Token → List Token → Prop
  | nil : Respaced [] []
  | token (t : Token) {ts us : List Token} : Respaced ts us → Respaced (t :: ts) (t :: us)
  | replaced (a b : String) {ts us : List Token} : Respaced ts us →
    Respaced (.whitespace a :: ts) (.whitespace b :: us)
  | lostAfter (a : String) {t : Token} {ts us : List Token} : t.looseAfter = true →
    Respaced ts us → Respaced (t :: .whitespace a :: ts) (t :: us)
  | gainedAfter (b : String) {t : Token} {ts us : List Token} : t.looseAfter = true →
    Respaced ts us → Respaced (t :: ts) (t :: .whitespace b :: us)
  | lostBefore (a : String) {t : Token} {ts us : List Token} : t.looseBefore = true →
    Respaced ts us → Respaced (.whitespace a :: t :: ts) (t :: us)
  | gainedBefore (b : String) {t : Token} {ts us : List Token} : t.looseBefore = true →
    Respaced ts us → Respaced (t :: ts) (.whitespace b :: t :: us)

namespace Respaced

variable {ts us : List Token}

theorem refl (ts : List Token) : Respaced ts ts := by
  induction ts with
  | nil => exact .nil
  | cons t ts ih => exact .token t ih

theorem symm (h : Respaced ts us) : Respaced us ts := by
  induction h with
  | nil => exact .nil
  | token t _ ih => exact .token t ih
  | replaced a b _ ih => exact .replaced b a ih
  | lostAfter a ht _ ih => exact .gainedAfter a ht ih
  | gainedAfter b ht _ ih => exact .lostAfter b ht ih
  | lostBefore a ht _ ih => exact .gainedBefore a ht ih
  | gainedBefore b ht _ ih => exact .lostBefore b ht ih

theorem append_left (front : List Token) (h : Respaced ts us) :
    Respaced (front ++ ts) (front ++ us) := by
  induction front with
  | nil => exact h
  | cons t front ih => exact .token t ih

theorem eq_nil (h : Respaced [] us) : us = [] := by
  cases h
  rfl

end Respaced

/-! ## Tokens without blanks side by side -/

def SinglySpaced (ts : List Token) : Prop :=
  ts.IsChain fun t u => ∀ a b, t = .whitespace a → u ≠ .whitespace b

theorem SinglySpaced.of_append {ts us : List Token} (h : SinglySpaced (ts ++ us)) :
    SinglySpaced us :=
  (List.isChain_append.1 h).2.1

theorem SinglySpaced.of_cons {t : Token} {ts : List Token} (h : SinglySpaced (t :: ts)) :
    SinglySpaced ts :=
  (List.isChain_cons.1 h).2

theorem not_singlySpaced {a b : String} {ts : List Token} :
    ¬ SinglySpaced (.whitespace a :: .whitespace b :: ts) := fun h =>
  (List.isChain_cons_cons.1 h).1 a b rfl rfl

theorem singlySpaced_of_arranged {ts : List Token} (h : Token.Arranged ts) : SinglySpaced ts := by
  refine List.isChain_iff_forall_rel_of_append_cons_cons.2 ?_
  rintro t u before after hts a b rfl rfl
  exact h.apart before _ _ after hts (.whitespace a b)

/-! ## What becomes of a token -/

/-- What comes next is a firm token. -/
def Firm (ts : List Token) : Prop :=
  ∃ t, ts.head? = some t ∧ t.isFirm = true

theorem firm_cons {t : Token} (ht : t.isFirm = true) (ts : List Token) : Firm (t :: ts) :=
  ⟨t, rfl, ht⟩

section Inversion

variable {t : Token} {bs ts l : List Token}

/-- A token that blanks are optional on no side of stays as it is. -/
theorem Respaced.of_token (hafter : t.looseAfter = false) (hfirm : t.isFirm = true)
    (h : Respaced (t :: ts) l) : ∃ us, l = t :: us ∧ Respaced ts us := by
  cases h with
  | token _ h => exact ⟨_, rfl, h⟩
  | replaced _ _ _ => cases hfirm
  | lostAfter _ hloose _ => cases hafter.symm.trans hloose
  | gainedAfter _ hloose _ => cases hafter.symm.trans hloose
  | lostBefore _ _ _ => cases hfirm
  | gainedBefore _ hloose _ => cases (Token.looseBefore_of_isFirm hfirm).symm.trans hloose

/-- Blanks that separate stay blanks. -/
theorem Respaced.of_blanks {a : String} (hfirm : Firm ts)
    (h : Respaced (.whitespace a :: ts) l) : ∃ b us, l = .whitespace b :: us ∧ Respaced ts us := by
  cases h with
  | token _ h => exact ⟨a, _, rfl, h⟩
  | replaced _ b h => exact ⟨b, _, rfl, h⟩
  | lostAfter _ hloose _ => cases hloose
  | gainedAfter _ hloose _ => cases hloose
  | lostBefore _ hloose _ =>
    obtain ⟨_, hhead, ht⟩ := hfirm
    obtain rfl := Option.some.inj hhead
    cases (Token.looseBefore_of_isFirm ht).symm.trans hloose
  | gainedBefore _ hloose _ => cases hloose

theorem Respaced.of_looseAfter (ht : t.looseAfter = true) (hb : IsBlank bs) (hfirm : Firm ts)
    (hl : SinglySpaced l) (h : Respaced (t :: (bs ++ ts)) l) :
    ∃ cs us, l = t :: (cs ++ us) ∧ IsBlank cs ∧ Respaced ts us := by
  cases hb with
  | none =>
    cases h with
    | token _ h => exact ⟨[], _, rfl, .none, h⟩
    | replaced _ _ _ => cases ht
    | lostAfter a _ _ =>
      obtain ⟨_, hhead, hwhitespace⟩ := hfirm
      obtain rfl := Option.some.inj hhead
      cases hwhitespace
    | gainedAfter b _ h => exact ⟨[.whitespace b], _, rfl, .one b, h⟩
    | lostBefore _ _ _ => cases ht
    | gainedBefore b hloose _ => cases (Token.looseBefore_of_looseAfter ht).symm.trans hloose
  | one a =>
    cases h with
    | token _ h =>
      obtain ⟨b, us, rfl, hus⟩ := h.of_blanks hfirm
      exact ⟨[.whitespace b], us, rfl, .one b, hus⟩
    | replaced _ _ _ => cases ht
    | lostAfter _ _ h => exact ⟨[], _, rfl, .none, h⟩
    | gainedAfter c _ h =>
      -- the new blanks would stand beside those that are there already
      obtain ⟨b, us, rfl, -⟩ := h.of_blanks hfirm
      exact absurd hl.of_cons not_singlySpaced
    | lostBefore _ _ _ => cases ht
    | gainedBefore b hloose _ => cases (Token.looseBefore_of_looseAfter ht).symm.trans hloose

theorem Respaced.of_looseBefore_cons (ht : t.looseBefore = true) (h : Respaced (t :: ts) l) :
    ∃ cs us, l = cs ++ t :: us ∧ IsBlank cs ∧ Respaced ts us := by
  cases h with
  | token _ h => exact ⟨[], _, rfl, .none, h⟩
  | replaced _ _ _ => cases ht
  | lostAfter _ hloose _ => cases (Token.looseBefore_of_looseAfter hloose).symm.trans ht
  | gainedAfter _ hloose _ => cases (Token.looseBefore_of_looseAfter hloose).symm.trans ht
  | lostBefore _ _ _ => cases ht
  | gainedBefore b _ h => exact ⟨[.whitespace b], _, rfl, .one b, h⟩

theorem Respaced.of_looseBefore (ht : t.looseBefore = true) (hb : IsBlank bs)
    (hl : SinglySpaced l) (h : Respaced (bs ++ t :: ts) l) :
    ∃ cs us, l = cs ++ t :: us ∧ IsBlank cs ∧ Respaced ts us := by
  cases hb with
  | none => exact h.of_looseBefore_cons ht
  | one a =>
    -- blanks before the token stay, since it cannot get others
    have hstays {b : String} {us : List Token} (h : Respaced (t :: ts) us)
        (hl : SinglySpaced (.whitespace b :: us)) :
        ∃ cs vs, .whitespace b :: us = cs ++ t :: vs ∧ IsBlank cs ∧ Respaced ts vs := by
      obtain ⟨cs, vs, rfl, hc, hvs⟩ := h.of_looseBefore_cons ht
      cases hc with
      | none => exact ⟨[.whitespace b], vs, rfl, .one b, hvs⟩
      | one c => exact absurd hl not_singlySpaced
    cases h with
    | token _ h => exact hstays h hl
    | replaced _ _ h => exact hstays h hl
    | lostAfter _ hloose _ => cases hloose
    | gainedAfter _ hloose _ => cases hloose
    | lostBefore _ _ h => exact ⟨[], _, rfl, .none, h⟩
    | gainedBefore _ hloose _ => cases hloose

end Inversion

/-! ## Respacing a part -/

/-- Wherever the tokens stand, respacing leaves some that have `D` in their place. -/
def Respaces (D : List Token → Prop) (ts : List Token) : Prop :=
  ∀ rest l, SinglySpaced l → Respaced (ts ++ rest) l →
    ∃ us more, l = us ++ more ∧ D us ∧ Respaced rest more

namespace Respaces

variable {D E : List Token → Prop} {ts us : List Token}

theorem mono (h : Respaces D ts) (hDE : ∀ us, D us → E us) : Respaces E ts := by
  intro rest l hl hrespaced
  obtain ⟨us, more, rfl, hD, hmore⟩ := h rest l hl hrespaced
  exact ⟨us, more, rfl, hDE us hD, hmore⟩

theorem nil (hD : D []) : Respaces D [] :=
  fun _ l _ h => ⟨[], l, rfl, hD, h⟩

theorem append (h : Respaces D ts) (h' : Respaces E us) :
    Respaces (fun ws => ∃ vs vs', ws = vs ++ vs' ∧ D vs ∧ E vs') (ts ++ us) := by
  intro rest l hl hrespaced
  rw [List.append_assoc] at hrespaced
  obtain ⟨vs, _, rfl, hD, hrespaced⟩ := h _ l hl hrespaced
  obtain ⟨vs', more, rfl, hE, hmore⟩ := h' rest _ hl.of_append hrespaced
  exact ⟨vs ++ vs', more, (List.append_assoc _ _ _).symm, ⟨vs, vs', rfl, hD, hE⟩, hmore⟩

theorem token {t : Token} (hafter : t.looseAfter = false) (hfirm : t.isFirm = true)
    (hD : D [t]) : Respaces D [t] := by
  intro rest l _ h
  obtain ⟨us, rfl, hus⟩ := h.of_token hafter hfirm
  exact ⟨[t], us, rfl, hD, hus⟩

theorem cons {t : Token} (hafter : t.looseAfter = false) (hfirm : t.isFirm = true)
    (h : Respaces D ts) :
    Respaces (fun us => ∃ vs, us = t :: vs ∧ D vs) (t :: ts) := by
  refine ((token (D := (· = [t])) hafter hfirm rfl).append h).mono ?_
  rintro us ⟨_, vs, rfl, rfl, hD⟩
  exact ⟨vs, rfl, hD⟩

theorem blanks (a : String) (hfirm : ∀ more, Firm (ts ++ more)) (h : Respaces D ts) :
    Respaces (fun us => ∃ b vs, us = .whitespace b :: vs ∧ D vs) (.whitespace a :: ts) := by
  intro rest l hl hrespaced
  obtain ⟨b, us, rfl, hus⟩ := hrespaced.of_blanks (hfirm rest)
  obtain ⟨vs, more, rfl, hD, hmore⟩ := h rest us hl.of_cons hus
  exact ⟨.whitespace b :: vs, more, rfl, ⟨b, vs, rfl, hD⟩, hmore⟩

/-- Between two delimiters, blanks are optional on both sides. -/
theorem between {t u : Token} {bs cs : List Token} (ht : t.looseAfter = true)
    (hu : u.looseBefore = true) (hb : IsBlank bs) (hc : IsBlank cs)
    (hfirm : ∀ more, Firm (ts ++ more)) (h : Respaces D ts) :
    Respaces (fun us => ∃ bs vs cs, us = t :: (bs ++ (vs ++ (cs ++ [u]))) ∧ IsBlank bs ∧ D vs ∧
      IsBlank cs) (t :: (bs ++ (ts ++ (cs ++ [u])))) := by
  intro rest l hl hrespaced
  simp only [List.cons_append, List.append_assoc, List.nil_append] at hrespaced
  obtain ⟨bs', us, rfl, hb', hinside⟩ := hrespaced.of_looseAfter ht hb (hfirm _) hl
  have hus := hl.of_cons.of_append
  obtain ⟨vs, us, rfl, hD, hend⟩ := h _ us hus hinside
  obtain ⟨cs', more, rfl, hc', hmore⟩ := hend.of_looseBefore hu hc hus.of_append
  exact ⟨t :: (bs' ++ (vs ++ (cs' ++ [u]))), more, by simp, ⟨bs', vs, cs', rfl, hb', hD, hc'⟩,
    hmore⟩

end Respaces

/-! ## Expressions -/

theorem DerivesPath.firm {ts : List Token} {names : List String} (h : DerivesPath ts names)
    (more : List Token) : Firm (ts ++ more) := by
  cases h <;> exact firm_cons rfl _

theorem DerivesArgument.firm {ts : List Token} {e : Expression} (h : DerivesArgument ts e)
    (more : List Token) : Firm (ts ++ more) := by
  cases h with
  | literal value => exact firm_cons rfl _
  | path h => exact h.firm more
  | call name _ _ _ => exact firm_cons rfl _

theorem DerivesExpression.firm {ts : List Token} {e : Expression} (h : DerivesExpression ts e)
    (more : List Token) : Firm (ts ++ more) := by
  cases h with
  | call name _ _ => exact firm_cons rfl _
  | literal value => exact firm_cons rfl _
  | path h => exact h.firm more

theorem DerivesPath.respaces {ts : List Token} {names : List String} (h : DerivesPath ts names) :
    Respaces (DerivesPath · names) ts := by
  induction h with
  | one name => exact .token rfl rfl (.one name)
  | cons name _ ih =>
    refine ((ih.cons (t := .dot) rfl rfl).cons rfl rfl).mono ?_
    rintro us ⟨_, rfl, us, rfl, h⟩
    exact .cons name h

mutual

theorem DerivesArgument.respaces {ts : List Token} {e : Expression} :
    DerivesArgument ts e → Respaces (DerivesArgument · e) ts
  | .literal value => .token rfl rfl (.literal value)
  | .path h => h.respaces.mono fun _ h => .path h
  | .call name hb hs hc => by
    have hname := hs.respaces.cons (t := .identifier name) rfl rfl
    have hcall := hname.between (t := .leftParen) (u := .rightParen) rfl rfl hb hc
      fun more => firm_cons rfl _
    rw [List.append_assoc]
    refine hcall.mono ?_
    rintro us ⟨bs, _, cs, rfl, hb, ⟨us, rfl, hs⟩, hc⟩
    rw [← List.append_assoc]
    exact .call name hb hs hc

theorem DerivesArguments.respaces {ts : List Token} {es : List Expression} :
    DerivesArguments ts es → Respaces (DerivesArguments · es) ts
  | .nil => .nil .nil
  | .cons a h hs => by
    refine ((h.respaces.blanks a h.firm).append hs.respaces).mono ?_
    rintro us ⟨_, vs, rfl, ⟨b, us, rfl, h⟩, hs⟩
    exact .cons b h hs

end

theorem DerivesExpression.respaces {ts : List Token} {e : Expression}
    (h : DerivesExpression ts e) : Respaces (DerivesExpression · e) ts := by
  cases h with
  | call name hs hne =>
    refine (hs.respaces.cons rfl rfl).mono ?_
    rintro us ⟨us, rfl, hs⟩
    exact .call name hs hne
  | literal value => exact .token rfl rfl (.literal value)
  | path h => exact h.respaces.mono fun _ h => .path h

/-! ## Tags -/

theorem IsTag.respaces {marker : Marker} {inside ts : List Token} {D : List Token → Prop}
    (h : IsTag marker inside ts) (hfirm : ∀ more, Firm (inside ++ more))
    (hinside : Respaces D inside) : Respaces (fun us => ∃ vs, IsTag marker vs us ∧ D vs) ts := by
  obtain ⟨hb, hc⟩ := h
  refine (hinside.between rfl rfl hb hc hfirm).mono ?_
  rintro us ⟨bs, vs, cs, rfl, hb, hD, hc⟩
  exact ⟨vs, .mk hb hc, hD⟩

theorem IsElseTag.respaces {ts : List Token} (h : IsElseTag ts) : Respaces IsElseTag ts := by
  have hname : Respaces (· = [.identifier "else"]) [.identifier "else"] := .token rfl rfl rfl
  refine (IsTag.respaces h (fun _ => firm_cons rfl _) hname).mono ?_
  rintro us ⟨_, htag, rfl⟩
  exact htag

theorem IsCloseTag.respaces {name : String} {ts : List Token} (h : IsCloseTag name ts) :
    Respaces (IsCloseTag name) ts := by
  obtain ⟨us, names, hpath, htag, hname⟩ := h
  refine (htag.respaces hpath.firm hpath.respaces).mono ?_
  rintro ts ⟨us, htag, hpath⟩
  exact ⟨us, names, hpath, htag, hname⟩

/-- A tag whose expression is the path `else` is an else tag. -/
theorem isElseTag_of_isTag {us vs ts ts' : List Token} {e : Expression}
    (htag : IsTag .interpolation us ts) (he : DerivesExpression us e)
    (htag' : IsTag .interpolation vs ts') (he' : DerivesExpression vs e) (h' : IsElseTag ts') :
    IsElseTag ts := by
  obtain rfl := htag'.expression_unique he' h' (.path (.one "else"))
  cases he with
  | path hpath =>
    cases hpath with
    | one => exact htag
    | cons _ hrest => cases hrest

/-! ## Statements -/

mutual

theorem DerivesStatement.respaces {ts : List Token} {s : Statement} :
    DerivesStatement ts s → Respaces (DerivesStatement · s) ts
  | .text value => .token rfl rfl (.text value)
  | .comment value => .token rfl rfl (.comment value)
  | .interpolation htag he hne => by
    refine (htag.respaces he.firm he.respaces).mono ?_
    rintro us ⟨vs, htag', he'⟩
    exact .interpolation htag' he' fun helse => hne (isElseTag_of_isTag htag he htag' he' helse)
  | .block hopens htag he hbody helse hclose => by
    have hopening := htag.respaces he.firm he.respaces
    have hall := hopening.append (hbody.respaces.append (helse.respaces.append hclose.respaces))
    refine hall.mono ?_
    rintro us ⟨_, _, rfl, ⟨vs, htag, he⟩, _, _, rfl, hbody, _, _, rfl, helse, hclose⟩
    exact .block hopens htag he hbody helse hclose

theorem DerivesBody.respaces {ts : List Token} {ss : List Statement} :
    DerivesBody ts ss → Respaces (DerivesBody · ss) ts
  | .nil => .nil .nil
  | .cons h hs => by
    refine (h.respaces.append hs.respaces).mono ?_
    rintro us ⟨_, _, rfl, h, hs⟩
    exact .cons h hs

theorem DerivesElse.respaces {ts : List Token} {elseBody : Option (List Statement)} :
    DerivesElse ts elseBody → Respaces (DerivesElse · elseBody) ts
  | .none => .nil .none
  | .some htag hbody => by
    refine (htag.respaces.append hbody.respaces).mono ?_
    rintro us ⟨_, _, rfl, htag, hbody⟩
    exact .some htag hbody

end

/-! ## Templates -/

section Templates

variable {ts us front back : List Token} {blanks : String} {t : Template}

theorem Respaced.derivesBody {ss : List Statement} (h : Respaced ts us) (hus : SinglySpaced us)
    (hbody : DerivesBody ts ss) : DerivesBody us ss := by
  obtain ⟨vs, more, rfl, hvs, hmore⟩ := hbody.respaces [] us hus (by rwa [List.append_nil])
  rwa [hmore.eq_nil, List.append_nil]

theorem Respaced.template_eq_ok (h : Respaced ts us) (hus : SinglySpaced us)
    (ht : template ts = .ok t) : template us = .ok t := by
  obtain ⟨hnesting, hbody, hversion⟩ := Grammar.template_eq_ok.1 ht
  have hbody' := h.derivesBody hus hbody
  have hdepth := hbody.nestingError?_eq_none_iff.1 hnesting
  exact Grammar.template_eq_ok.2 ⟨hbody'.nestingError?_eq_none_iff.2 hdepth, hbody', hversion⟩

/-- Respacing changes neither whether tokens make up a template nor which one. -/
theorem Respaced.template_eq_ok_iff (h : Respaced ts us) (hts : SinglySpaced ts)
    (hus : SinglySpaced us) : template us = .ok t ↔ template ts = .ok t :=
  ⟨h.symm.template_eq_ok hts, h.template_eq_ok hus⟩

/-- Blanks between the two parts stand behind an opening delimiter or before a closing one. -/
def Loose (front back : List Token) : Prop :=
  (∃ t, front.getLast? = some t ∧ t.looseAfter = true) ∨
    ∃ t, back.head? = some t ∧ t.looseBefore = true

theorem Loose.respaced (h : Loose front back) (blanks : String) :
    Respaced (front ++ back) (front ++ .whitespace blanks :: back) := by
  rcases h with ⟨t, hlast, ht⟩ | ⟨t, hhead, ht⟩
  · obtain ⟨front, rfl⟩ := List.getLast?_eq_some_iff.1 hlast
    rw [List.append_assoc, List.append_assoc]
    exact .append_left front (.gainedAfter blanks ht (.refl back))
  · obtain ⟨back, rfl⟩ := List.head?_eq_some_iff.1 hhead
    exact .append_left front (.gainedBefore blanks ht (.refl back))

theorem singlySpaced_insert (h : SinglySpaced (front ++ back))
    (hfront : ∀ b, front.getLast? ≠ some (.whitespace b)) (hback : Unspaced back) :
    SinglySpaced (front ++ .whitespace blanks :: back) := by
  obtain ⟨hchain, hchain', -⟩ := List.isChain_append.1 h
  refine List.isChain_append.2 ⟨hchain, List.isChain_cons.2 ⟨?_, hchain'⟩, ?_⟩
  · rintro u hu a b - rfl
    exact hback b hu
  · rintro u hu _ - a b rfl
    exact absurd hu (hfront a)

theorem singlySpaced_remove (h : SinglySpaced (front ++ .whitespace blanks :: back)) :
    SinglySpaced (front ++ back) := by
  obtain ⟨hchain, hchain', hseam⟩ := List.isChain_append.1 h
  refine List.isChain_append.2 ⟨hchain, hchain'.tail, ?_⟩
  rintro u hu _ - a b rfl
  exact absurd rfl (hseam _ hu _ rfl a blanks rfl)

end Templates

/-- **Blanks only separate.** In the tokens of a source, other blanks for some make no difference
at all, not even to errors. Blanks that are put in or taken out behind an opener or a left
parenthesis, or before a closer or a right one, change neither whether the tokens make up a template
nor which one they make up. -/
theorem template_respaced {source : String} {lexemes : List Lexeme}
    (hscan : Lexeme.scan source = .ok lexemes) :
    (∀ us : List Token, us.map Token.squeezed = (lexemes.map Lexeme.token).map Token.squeezed →
      template us = template (lexemes.map Lexeme.token)) ∧
    ∀ (front back : List Token) (blanks : String), Loose front back →
      (lexemes.map Lexeme.token = front ++ back →
        (∀ b, front.getLast? ≠ some (.whitespace b)) → (∀ b, back.head? ≠ some (.whitespace b)) →
        ∀ t, template (front ++ .whitespace blanks :: back) = .ok t ↔
          template (lexemes.map Lexeme.token) = .ok t) ∧
      (lexemes.map Lexeme.token = front ++ .whitespace blanks :: back →
        ∀ t, template (front ++ back) = .ok t ↔ template (lexemes.map Lexeme.token) = .ok t) := by
  have hspaced := singlySpaced_of_arranged (Lexeme.arranged_of_scan hscan)
  generalize lexemes.map Lexeme.token = tokens at hspaced ⊢
  refine ⟨fun us h => template_eq_of_squeezed_eq h, fun front back blanks hloose => ⟨?_, ?_⟩⟩
  · rintro rfl hfront hback t
    exact (hloose.respaced blanks).template_eq_ok_iff hspaced
      (singlySpaced_insert hspaced hfront hback)
  · rintro rfl t
    exact (hloose.respaced blanks).symm.template_eq_ok_iff hspaced (singlySpaced_remove hspaced)

/-- In a block with an else tag, blanks before a right parenthesis are replaced and taken out, and
others are put in behind the opener of the else tag. -/
theorem template_respaced_nested :
    let front : List Token := [.opener .blockOpen, .identifier "a", .closer,
      .opener .interpolation, .identifier "f", .whitespace " ", .leftParen, .identifier "g"]
    let middle : List Token := [.rightParen, .closer, .opener .interpolation]
    let back : List Token :=
      [.identifier "else", .closer, .opener .blockClose, .identifier "a", .closer]
    let call := Statement.interpolation (.call "f" [.call "g" []])
    let t : Template := ⟨1, [.block (.path ["a"]) false [call] (some [])]⟩
    let source := "\x7b\x7b#a\x7d\x7d\x7b\x7bf (g )\x7d\x7d\x7b\x7belse\x7d\x7d\x7b\x7b/a\x7d\x7d"
    ∃ lexemes, Lexeme.scan source = .ok lexemes ∧
      lexemes.map Lexeme.token = front ++ .whitespace " " :: (middle ++ back) ∧
      template (lexemes.map Lexeme.token) = .ok t ∧
      template (front ++ .whitespace "\n" :: (middle ++ back)) = .ok t ∧
      template (front ++ (middle ++ back)) = .ok t ∧
      template ((front ++ .whitespace " " :: middle) ++ .whitespace "\t" :: back) = .ok t := by
  intro front middle back call t source
  have hscan : (Lexeme.scan source).map (List.map Lexeme.token) =
      .ok (front ++ .whitespace " " :: (middle ++ back)) := by
    unfold source
    rfl
  obtain ⟨lexemes, hlexemes, htokens⟩ := map_eq_ok.1 hscan
  have htemplate : template (lexemes.map Lexeme.token) = .ok t := by
    rw [htokens]
    rfl
  obtain ⟨hreplaced, hmoved⟩ := template_respaced hlexemes
  have hparen : Loose front (middle ++ back) := .inr ⟨.rightParen, rfl, rfl⟩
  have helse : Loose (front ++ .whitespace " " :: middle) back :=
    .inl ⟨.opener .interpolation, rfl, rfl⟩
  refine ⟨lexemes, hlexemes, htokens, htemplate, ?_, ?_, ?_⟩
  · rw [hreplaced _ (by rw [htokens]; rfl), htemplate]
  · exact ((hmoved _ _ " " hparen).2 htokens t).2 htemplate
  · have hinserted := (hmoved _ _ "\t" helse).1 (htokens.trans rfl)
    exact (hinserted (by simp [middle]) (by simp [back]) t).2 htemplate

end Grammar

end Stencil
