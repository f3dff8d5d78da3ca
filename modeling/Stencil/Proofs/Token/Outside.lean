import Stencil.Proofs.Token.Lexicon
import Stencil.Proofs.Token.Spelling

/-!
# Items outside of markers are what the rule takes

`outsideRule_eq_taken_iff`: the rule outside of markers takes exactly the items of the lexical
grammar. It breaks on comments that are not closed (`outsideRule_eq_broken_iff`) and refuses nothing
but the end (`outsideRule_eq_refused_iff`).
-/

namespace Stencil.Token

/-! ## Marks -/

theorem FirstMark.isInfix {mark cs before behind : List Char}
    (h : FirstMark mark cs before behind) : mark <:+: cs :=
  ⟨before, behind, by rw [h.1, List.append_assoc]⟩

theorem FirstMark.unique {mark cs before behind before' behind' : List Char}
    (h : FirstMark mark cs before behind) (h' : FirstMark mark cs before' behind') :
    before = before' ∧ behind = behind' := by
  have hlength : before.length = before'.length :=
    Nat.le_antisymm (h.2 _ _ h'.1) (h'.2 _ _ h.1)
  obtain ⟨hbefore, hbehind⟩ := List.append_inj (h.1.symm.trans h'.1) hlength
  exact ⟨hbefore, List.append_cancel_left hbehind⟩

theorem cut?_eq_none_iff {mark cs : List Char} : cut? mark cs = none ↔ ¬ mark <:+: cs := by
  induction cs with
  | nil =>
    rw [cut?, List.infix_nil]
    by_cases hmark : mark = []
    · simp [hmark]
    · simp [hmark]
  | cons c cs ih =>
    rw [cut?, List.infix_cons_iff, not_or, ← ih]
    by_cases hprefix : mark.isPrefixOf (c :: cs) = true
    · rw [if_pos hprefix]
      have := List.isPrefixOf_iff_prefix.1 hprefix
      simp [this]
    · rw [if_neg hprefix]
      have := mt List.isPrefixOf_iff_prefix.2 hprefix
      simp [this]

theorem firstMark_of_cut? {mark cs before behind : List Char}
    (h : cut? mark cs = some (before, behind)) : FirstMark mark cs before behind := by
  refine ⟨eq_append_of_cut? h, fun earlier later hcs => ?_⟩
  induction cs generalizing before earlier with
  | nil =>
    have hnil := eq_append_of_cut? h
    rw [(List.append_eq_nil_iff.1 hnil.symm).1]
    exact Nat.zero_le _
  | cons c cs ih =>
    rw [cut?] at h
    split at h
    · obtain ⟨rfl, -⟩ := Prod.mk.inj (Option.some.inj h)
      exact Nat.zero_le _
    · rename_i hprefix
      obtain ⟨⟨before, behind⟩, hcut, heq⟩ := Option.map_eq_some_iff.1 h
      obtain ⟨rfl, rfl⟩ := Prod.mk.inj heq
      cases earlier with
      | nil => exact absurd (List.isPrefixOf_iff_prefix.2 ⟨later, hcs.symm⟩) hprefix
      | cons d earlier => exact Nat.succ_le_succ (ih hcut earlier (List.cons.inj hcs).2)

theorem cut?_eq_some_iff {mark cs before behind : List Char} :
    cut? mark cs = some (before, behind) ↔ FirstMark mark cs before behind := by
  constructor
  · exact firstMark_of_cut?
  · intro h
    cases hcut : cut? mark cs with
    | none => exact absurd h.isInfix (cut?_eq_none_iff.1 hcut)
    | some found =>
      obtain ⟨hbefore, hbehind⟩ := (firstMark_of_cut? hcut).unique h
      rw [← hbefore, ← hbehind]

/-! ## Comments -/

theorem shortComment_eq_taken_iff {cs rest : List Char} {t : Token} :
    shortComment cs = .taken t rest ↔
      ∃ content, FirstMark ['}', '}'] cs content rest ∧ t = commentToken content := by
  unfold shortComment
  cases hcut : cut? ['}', '}'] cs with
  | none =>
    simp only [reduceCtorEq, false_iff, not_exists, not_and]
    intro content hfirst
    rw [← cut?_eq_some_iff, hcut] at hfirst
    cases hfirst
  | some found =>
    obtain ⟨content, behind⟩ := found
    simp only [Match.taken.injEq]
    constructor
    · rintro ⟨rfl, rfl⟩
      exact ⟨content, cut?_eq_some_iff.1 hcut, rfl⟩
    · rintro ⟨content', hfirst, rfl⟩
      obtain ⟨rfl, rfl⟩ := (cut?_eq_some_iff.1 hcut).unique hfirst
      exact ⟨rfl, rfl⟩

theorem shortComment_eq_broken_iff {cs : List Char} {fault : Fault} :
    shortComment cs = .broken fault ↔ ¬ ['}', '}'] <:+: cs ∧ fault = .unterminatedComment := by
  unfold shortComment
  rw [← cut?_eq_none_iff]
  cases cut? ['}', '}'] cs <;> simp [eq_comm]

/-- A short comment is read as one, also if it opens like a long one. -/
theorem commentRule_short {cs : List Char}
    (h : ∀ more, cs = '-' :: '-' :: more → ¬ ['-', '-', '}', '}'] <:+: more) :
    commentRule ('{' :: '{' :: '!' :: cs) = shortComment cs := by
  unfold commentRule
  split
  · rename_i more heq
    obtain rfl : cs = '-' :: '-' :: more :=
      (List.cons.inj (List.cons.inj (List.cons.inj heq).2).2).2
    rw [cut?_eq_none_iff.2 (h more rfl)]
  · rename_i heq
    rw [(List.cons.inj (List.cons.inj (List.cons.inj heq).2).2).2]
  · rename_i hno
    exact absurd rfl (hno cs)

/-- What the rule for comments does with an opened comment, by the form that it has. -/
theorem commentRule_cases (cs : List Char) :
    (∃ more content rest, cs = '-' :: '-' :: more ∧
      FirstMark ['-', '-', '}', '}'] more content rest ∧
      commentRule ('{' :: '{' :: '!' :: cs) = .taken (commentToken content) rest) ∨
    ((∀ more, cs = '-' :: '-' :: more → ¬ ['-', '-', '}', '}'] <:+: more) ∧
      commentRule ('{' :: '{' :: '!' :: cs) = shortComment cs) := by
  by_cases hlong : ∃ more, cs = '-' :: '-' :: more ∧ ['-', '-', '}', '}'] <:+: more
  · left
    obtain ⟨more, rfl, hmark⟩ := hlong
    cases hcut : cut? ['-', '-', '}', '}'] more with
    | none => exact absurd hmark (cut?_eq_none_iff.1 hcut)
    | some found =>
      obtain ⟨content, rest⟩ := found
      refine ⟨more, content, rest, rfl, cut?_eq_some_iff.1 hcut, ?_⟩
      rw [commentRule, hcut]
  · right
    have hshort : ∀ more, cs = '-' :: '-' :: more → ¬ ['-', '-', '}', '}'] <:+: more :=
      fun more hcs hmark => hlong ⟨more, hcs, hmark⟩
    exact ⟨hshort, commentRule_short hshort⟩

theorem IsComment.isPrefix {cs content rest : List Char} (h : IsComment cs content rest) :
    ['{', '{', '!'] <+: cs := by
  cases h <;> exact ⟨_, rfl⟩

theorem commentRule_eq_taken_iff {cs rest : List Char} {t : Token} :
    commentRule cs = .taken t rest ↔
      ∃ content, IsComment cs content rest ∧ t = commentToken content := by
  by_cases hopen : ['{', '{', '!'] <+: cs
  · obtain ⟨cs, rfl⟩ := hopen
    show commentRule ('{' :: '{' :: '!' :: cs) = .taken t rest ↔
      ∃ content, IsComment ('{' :: '{' :: '!' :: cs) content rest ∧ t = commentToken content
    rcases commentRule_cases cs with ⟨more, content, behind, rfl, hmark, hrule⟩ | ⟨hshort, hrule⟩
    · rw [hrule, Match.taken.injEq]
      constructor
      · rintro ⟨rfl, rfl⟩
        exact ⟨content, .long hmark, rfl⟩
      · rintro ⟨content', hcomment, rfl⟩
        cases hcomment with
        | long hmark' =>
          obtain ⟨rfl, rfl⟩ := hmark.unique hmark'
          exact ⟨rfl, rfl⟩
        | short hshort _ => exact absurd hmark.isInfix (hshort more rfl)
    · rw [hrule, shortComment_eq_taken_iff]
      constructor
      · rintro ⟨content, hmark, rfl⟩
        exact ⟨content, .short hshort hmark, rfl⟩
      · rintro ⟨content, hcomment, rfl⟩
        cases hcomment with
        | long hmark => exact absurd hmark.isInfix (hshort _ rfl)
        | short _ hmark => exact ⟨content, hmark, rfl⟩
  · rw [commentRule_refused hopen]
    simp only [reduceCtorEq, false_iff, not_exists, not_and]
    exact fun content hcomment => absurd hcomment.isPrefix hopen

theorem commentRule_eq_broken_iff {cs : List Char} {fault : Fault} :
    commentRule cs = .broken fault ↔
      ∃ more, cs = '{' :: '{' :: '!' :: more ∧ ¬ ['}', '}'] <:+: more ∧
        fault = .unterminatedComment := by
  by_cases hopen : ['{', '{', '!'] <+: cs
  · obtain ⟨cs, rfl⟩ := hopen
    show commentRule ('{' :: '{' :: '!' :: cs) = .broken fault ↔
      ∃ more, '{' :: '{' :: '!' :: cs = '{' :: '{' :: '!' :: more ∧ _
    simp only [List.cons.injEq, true_and, exists_eq_left']
    rcases commentRule_cases cs with ⟨more, content, behind, rfl, hmark, hrule⟩ | ⟨-, hrule⟩
    · have hclosed : ['}', '}'] <:+: '-' :: '-' :: more := by
        refine List.IsInfix.trans ?_ (hmark.isInfix.trans ⟨['-', '-'], [], by simp⟩)
        exact ⟨['-', '-'], [], rfl⟩
      simp [hrule, hclosed]
    · rw [hrule, shortComment_eq_broken_iff]
  · rw [commentRule_refused hopen]
    simp only [reduceCtorEq, false_iff, not_exists, not_and]
    rintro more rfl
    exact absurd ⟨more, rfl⟩ hopen

theorem commentRule_eq_refused_iff {cs : List Char} :
    commentRule cs = .refused ↔ ¬ ['{', '{', '!'] <+: cs := by
  constructor
  · rintro hrule ⟨cs, rfl⟩
    have hcases := commentRule_cases cs
    rw [show commentRule ('{' :: '{' :: '!' :: cs) = .refused from hrule] at hcases
    rcases hcases with ⟨_, _, _, _, _, h⟩ | ⟨_, h⟩
    · cases h
    · unfold shortComment at h
      cases hcut : cut? ['}', '}'] cs <;> simp [hcut] at h
  · exact commentRule_refused

/-! ## Openers -/

theorem Marker.length_chars_le (marker : Marker) : marker.chars.length ≤ 3 := by
  cases marker <;> decide

theorem openerRule_eq_taken_iff {cs rest : List Char} {t : Token} :
    openerRule cs = .taken t rest ↔
      ∃ marker : Marker, t = .opener marker ∧ cs = marker.chars ++ rest ∧
        Marker.Longest marker cs := by
  constructor
  · intro h
    have hlong : ∀ (marker : Marker) (cs : List Char), marker.chars.length = 3 →
        Marker.Longest marker cs := by
      intro marker cs hmarker other _
      rw [hmarker]
      exact Marker.length_chars_le other
    unfold openerRule at h
    split at h
    case h_1 => cases h; exact ⟨.blockOpen, rfl, rfl, hlong _ _ rfl⟩
    case h_2 => cases h; exact ⟨.invertedOpen, rfl, rfl, hlong _ _ rfl⟩
    case h_3 => cases h; exact ⟨.blockClose, rfl, rfl, hlong _ _ rfl⟩
    case h_4 cs hplain hinverted hclose =>
      cases h
      refine ⟨.interpolation, rfl, rfl, ?_⟩
      rintro other ⟨more, hmore⟩
      have hrest : ∀ c, other.chars = ['{', '{', c] → rest = c :: more := by
        rintro c hc
        rw [hc] at hmore
        exact (List.cons.inj (List.cons.inj hmore).2).2.symm
      cases other with
      | interpolation => exact Nat.le_refl _
      | blockOpen => exact (hplain more (hrest '#' rfl)).elim
      | invertedOpen => exact (hinverted more (hrest '^' rfl)).elim
      | blockClose => exact (hclose more (hrest '/' rfl)).elim
    case h_5 => cases h
  · rintro ⟨marker, rfl, rfl, hlongest⟩
    have hshort : ∀ other : Marker, other.chars.length = 3 → other.chars <+: marker.chars ++ rest →
        marker.chars.length = 3 := by
      intro other hother hprefix
      have := hlongest other hprefix
      have := Marker.length_chars_le marker
      omega
    cases marker with
    | interpolation =>
      show openerRule ('{' :: '{' :: rest) = _
      rw [openerRule]
      · rintro cs rfl
        exact absurd (hshort .blockOpen rfl ⟨cs, rfl⟩) (by decide)
      · rintro cs rfl
        exact absurd (hshort .invertedOpen rfl ⟨cs, rfl⟩) (by decide)
      · rintro cs rfl
        exact absurd (hshort .blockClose rfl ⟨cs, rfl⟩) (by decide)
    | blockOpen => rfl
    | invertedOpen => rfl
    | blockClose => rfl

theorem openerRule_ne_broken (cs : List Char) (fault : Fault) : openerRule cs ≠ .broken fault := by
  unfold openerRule
  split <;> exact fun h => nomatch h

theorem openerRule_eq_refused_iff {cs : List Char} :
    openerRule cs = .refused ↔ ¬ ['{', '{'] <+: cs := by
  constructor
  · rintro hrule ⟨cs, rfl⟩
    have htaken : ∃ t rest, openerRule ('{' :: '{' :: cs) = .taken t rest := by
      unfold openerRule
      split
      case h_5 hno => exact absurd rfl (hno cs)
      all_goals exact ⟨_, _, rfl⟩
    obtain ⟨t, rest, htaken⟩ := htaken
    rw [show openerRule ('{' :: '{' :: cs) = .refused from hrule] at htaken
    cases htaken
  · exact openerRule_refused

/-! ## Texts -/

theorem splitAtOpener_eq_cut? (cs : List Char) :
    splitAtOpener cs = match cut? ['{', '{'] cs with
      | some (content, behind) => (content, '{' :: '{' :: behind)
      | none => (cs, []) := by
  induction cs using splitAtOpener.induct with
  | case1 cs => rfl
  | case2 c cs hno ih =>
    have hprefix : ¬ (['{', '{'].isPrefixOf (c :: cs) = true) := by
      rw [List.isPrefixOf_iff_prefix]
      rintro ⟨more, hmore⟩
      obtain ⟨rfl, rfl⟩ := List.cons.inj hmore
      exact hno more rfl rfl
    rw [splitAtOpener, ih, cut?, if_neg hprefix]
    · cases cut? ['{', '{'] cs <;> rfl
    · exact hno
  | case3 => rfl

theorem splitAtOpener_eq_iff {cs content rest : List Char} :
    splitAtOpener cs = (content, rest) ↔ IsText cs content rest := by
  rw [splitAtOpener_eq_cut?]
  cases hcut : cut? ['{', '{'] cs with
  | none =>
    have hno := cut?_eq_none_iff.1 hcut
    simp only [Prod.mk.injEq]
    constructor
    · rintro ⟨rfl, rfl⟩
      exact .last hno
    · intro h
      cases h with
      | last _ => exact ⟨rfl, rfl⟩
      | before hmark => exact absurd hmark.isInfix hno
  | some found =>
    obtain ⟨before, behind⟩ := found
    have hmark := cut?_eq_some_iff.1 hcut
    simp only [Prod.mk.injEq]
    constructor
    · rintro ⟨rfl, rfl⟩
      exact .before hmark
    · intro h
      cases h with
      | last hno => exact absurd hmark.isInfix hno
      | before hmark' =>
        obtain ⟨rfl, rfl⟩ := hmark.unique hmark'
        exact ⟨rfl, rfl⟩

theorem textRule_eq_taken_iff {cs rest : List Char} {t : Token} :
    textRule cs = .taken t rest ↔
      ∃ content, content ≠ [] ∧ IsText cs content rest ∧ t = .text (String.ofList content) := by
  unfold textRule
  rcases hsplit : splitAtOpener cs with ⟨content, behind⟩
  have hunique : ∀ content' rest', IsText cs content' rest' → content = content' ∧ behind = rest' :=
    fun content' rest' h => Prod.mk.inj (hsplit.symm.trans (splitAtOpener_eq_iff.2 h))
  cases content with
  | nil =>
    simp only [reduceCtorEq, false_iff, not_exists, not_and]
    rintro content' hne htext
    exact absurd (hunique _ _ htext).1.symm hne
  | cons c content =>
    simp only [Match.taken.injEq]
    constructor
    · rintro ⟨rfl, rfl⟩
      exact ⟨_, List.cons_ne_nil c content, splitAtOpener_eq_iff.1 hsplit, rfl⟩
    · rintro ⟨content', -, htext, rfl⟩
      obtain ⟨rfl, rfl⟩ := hunique _ _ htext
      exact ⟨rfl, rfl⟩

theorem textRule_ne_broken (cs : List Char) (fault : Fault) : textRule cs ≠ .broken fault := by
  unfold textRule
  split <;> exact fun h => nomatch h

/-- A text does not begin with opening braces. -/
theorem IsText.not_isPrefix {cs content rest : List Char} (h : IsText cs content rest)
    (hne : content ≠ []) : ¬ ['{', '{'] <+: cs := by
  rintro ⟨more, rfl⟩
  cases h with
  | last hno => exact hno ⟨[], more, rfl⟩
  | before hmark =>
    have hlength := hmark.2 [] more rfl
    exact hne (List.eq_nil_of_length_eq_zero (Nat.le_zero.1 hlength))

/-- Where nothing is taken outside of markers, nothing is left. -/
theorem eq_nil_of_textRule_refused {cs : List Char} (hopener : ¬ ['{', '{'] <+: cs)
    (h : textRule cs = .refused) : cs = [] := by
  unfold textRule at h
  rcases hsplit : splitAtOpener cs with ⟨content, behind⟩
  have htext := splitAtOpener_eq_iff.1 hsplit
  cases content with
  | nil =>
    cases htext with
    | last _ => rfl
    | before hmark => exact absurd ⟨_, hmark.1.symm⟩ hopener
  | cons c content =>
    rw [hsplit] at h
    cases h

/-! ## The rule outside of markers -/

theorem firstOf_cons_eq_iff {rule : Rule} {rules : List Rule} {cs : List Char} {m : Match}
    (hm : m ≠ .refused) :
    firstOf (rule :: rules) cs = m ↔ rule cs = m ∨ rule cs = .refused ∧ firstOf rules cs = m := by
  rw [firstOf]
  cases hrule : rule cs with
  | refused => simp [hm.symm]
  | taken t rest => simp
  | broken fault => simp

theorem firstOf_cons_eq_refused_iff {rule : Rule} {rules : List Rule} {cs : List Char} :
    firstOf (rule :: rules) cs = .refused ↔ rule cs = .refused ∧ firstOf rules cs = .refused := by
  rw [firstOf]
  cases rule cs <;> simp

/-- **Items outside of markers.** -/
theorem outsideRule_eq_taken_iff {cs rest : List Char} {t : Token} :
    outsideRule cs = .taken t rest ↔ Outside cs t rest := by
  unfold outsideRule
  rw [firstOf_cons_eq_iff (by simp), firstOf_cons_eq_iff (by simp), firstOf_cons_eq_iff (by simp),
    commentRule_eq_taken_iff, commentRule_eq_refused_iff, openerRule_eq_taken_iff,
    openerRule_eq_refused_iff, textRule_eq_taken_iff]
  constructor
  · rintro (⟨content, hcomment, rfl⟩ | ⟨hcomment, ⟨marker, rfl, rfl, hlongest⟩ |
      ⟨-, ⟨content, hne, htext, rfl⟩ | ⟨-, h⟩⟩⟩)
    · exact .comment hcomment
    · exact .opener hcomment hlongest
    · exact .text hne htext
    · cases h
  · intro h
    cases h with
    | comment hcomment => exact .inl ⟨_, hcomment, rfl⟩
    | opener hcomment hlongest => exact .inr ⟨hcomment, .inl ⟨_, rfl, rfl, hlongest⟩⟩
    | text hne htext =>
      have hopener := htext.not_isPrefix hne
      have hcomment : ¬ ['{', '{', '!'] <+: cs :=
        fun h => hopener (List.IsPrefix.trans ⟨['!'], rfl⟩ h)
      exact .inr ⟨hcomment, .inr ⟨hopener, .inl ⟨_, hne, htext, rfl⟩⟩⟩

/-- **Broken items outside of markers.** Only a comment that is not closed is one. -/
theorem outsideRule_eq_broken_iff {cs : List Char} {fault : Fault} :
    outsideRule cs = .broken fault ↔
      ∃ more, cs = '{' :: '{' :: '!' :: more ∧ ¬ ['}', '}'] <:+: more ∧
        fault = .unterminatedComment := by
  unfold outsideRule
  rw [firstOf_cons_eq_iff (by simp), firstOf_cons_eq_iff (by simp), firstOf_cons_eq_iff (by simp),
    commentRule_eq_broken_iff]
  simp [openerRule_ne_broken, textRule_ne_broken, firstOf]

/-- Outside of markers, some item begins wherever something is left. -/
theorem outsideRule_eq_refused_iff {cs : List Char} : outsideRule cs = .refused ↔ cs = [] := by
  constructor
  · intro h
    unfold outsideRule at h
    rw [firstOf_cons_eq_refused_iff, firstOf_cons_eq_refused_iff, firstOf_cons_eq_refused_iff,
      openerRule_eq_refused_iff] at h
    exact eq_nil_of_textRule_refused h.2.1 h.2.2.1
  · rintro rfl
    rfl

end Stencil.Token
