import Stencil.Proofs.Joined
import Stencil.Proofs.Lexeme.Arrangement

/-!
# Scans of sources that are joined

`Scans.joined`: behind a source that is scanned to its end, another one is scanned as it would be by
itself, and a text at the end of the one makes up one text with a text at the start of the other.

An item stays the same item when more follows (`IsItem.append`), for what ends it does. Three kinds
of items can end with the source instead. A text is one of them; comments that were closed by
braces alone, for want of dashes before them, are excluded by `LongCommentsClose`; and runs inside
of a marker cannot be last in a source whose markers are closed.
-/

namespace Stencil

namespace Token

/-- Two texts side by side are one. -/
def merge? : Token → Token → Option Token
  | text content, text other => some (text (content ++ other))
  | _, _ => none

theorem merge?_eq_none_left {t : Token} (h : ∀ content, t ≠ text content) (u : Token) :
    merge? t u = none := by
  cases t with
  | text content => exact absurd rfl (h content)
  | _ => rfl

theorem merge?_eq_none_right {u : Token} (h : ∀ content, u ≠ text content) (t : Token) :
    merge? t u = none := by
  cases u with
  | text content => exact absurd rfl (h content)
  | _ => cases t <;> rfl

/-! ## Items with more behind them -/

/-- A mark that begins before the first one would be in what has been looked at. -/
theorem FirstMark.append {mark cs before behind : List Char} (h : FirstMark mark cs before behind)
    (more : List Char) : FirstMark mark (cs ++ more) before (behind ++ more) := by
  obtain ⟨rfl, hfirst⟩ := h
  refine ⟨by simp only [List.append_assoc], fun earlier later hmore => ?_⟩
  apply Nat.le_of_not_lt
  intro hlt
  have hprefix : earlier ++ mark <+: before ++ (mark ++ behind) := by
    refine List.prefix_of_prefix_length_le ⟨later, ?_⟩ (List.prefix_append _ more) ?_
    · rw [hmore, List.append_assoc]
    · simp only [List.length_append]
      omega
  obtain ⟨later', hlater⟩ := hprefix
  have hle := hfirst earlier later' (by rw [← hlater, List.append_assoc])
  omega

/-- If a longer opening of a comment has its closing, so has the comment. -/
theorem IsComment.append {cs content rest : List Char} (h : IsComment cs content rest)
    (hlong : ∀ more, cs = '{' :: '{' :: '!' :: '-' :: '-' :: more → ['-', '-', '}', '}'] <:+: more)
    (more : List Char) : IsComment (cs ++ more) content (rest ++ more) := by
  cases h with
  | long hmark => exact .long (hmark.append more)
  | short hshort hmark =>
    rename_i cs
    refine .short (fun after hafter => ?_) (hmark.append more)
    exfalso
    -- the closing braces stand in the source, and so do the dashes before them
    have hbraces : 2 ≤ cs.length := by
      rw [hmark.1]
      simp only [List.length_append, List.length_cons, List.length_nil]
      omega
    have hdashes : ['-', '-'] <+: cs :=
      List.prefix_of_prefix_length_le ⟨after, hafter.symm⟩ (List.prefix_append cs more) hbraces
    obtain ⟨after', rfl⟩ := hdashes
    exact hshort after' rfl (hlong after' rfl)

/-- No opening mark is longer than three characters, so that what follows the first character behind
the braces does not matter. -/
theorem isPrefix_of_isPrefix_append {mark cs rest more : List Char} (hmark : mark.length ≤ 3)
    (hcs : 2 ≤ cs.length) (hrest : rest ≠ []) (h : mark <+: cs ++ (rest ++ more)) :
    mark <+: cs ++ rest := by
  rw [← List.append_assoc] at h
  refine List.prefix_of_prefix_length_le h (List.prefix_append _ more) ?_
  have hpos := List.length_pos_iff.2 hrest
  rw [List.length_append]
  omega

theorem Outside.append {cs rest : List Char} {t : Token} (h : Outside cs t rest)
    (hend : rest = [] → ∃ content, t = .comment content)
    (hlong : ∀ more, cs = '{' :: '{' :: '!' :: '-' :: '-' :: more → ['-', '-', '}', '}'] <:+: more)
    (more : List Char) : Outside (cs ++ more) t (rest ++ more) := by
  cases h with
  | comment hcomment => exact .comment (hcomment.append hlong more)
  | opener hcomment hlongest =>
    rename_i marker
    have hrest : rest ≠ [] := by
      intro hnil
      obtain ⟨content, hcontent⟩ := hend hnil
      cases hcontent
    have hbraces : 2 ≤ marker.chars.length := by cases marker <;> decide
    rw [List.append_assoc]
    refine .opener (fun h => hcomment ?_) fun other h => hlongest other ?_
    · exact isPrefix_of_isPrefix_append (by decide) hbraces hrest h
    · exact isPrefix_of_isPrefix_append (Marker.length_chars_le other) hbraces hrest h
  | text hne htext =>
    refine .text hne ?_
    cases htext with
    | last _ =>
      obtain ⟨content, hcontent⟩ := hend rfl
      cases hcontent
    | before hmark => exact .before (hmark.append more)

theorem MaximalRun.append {p : Char → Bool} {run rest : List Char} (h : MaximalRun p run rest)
    (hrest : rest ≠ []) (more : List Char) : MaximalRun p run (rest ++ more) := by
  obtain ⟨c, rest, rfl⟩ := List.exists_cons_of_ne_nil hrest
  exact ⟨h.ne_nil, h.all, h.ends⟩

theorem Inside.append {cs rest : List Char} {t : Token} (h : Inside cs t rest)
    (hend : rest = [] → t = .closer) (more : List Char) :
    Inside (cs ++ more) t (rest ++ more) := by
  cases h with
  | whitespace hrun =>
    have hrest : rest ≠ [] := fun hnil => nomatch hend hnil
    rw [List.append_assoc]
    exact .whitespace (hrun.append hrest more)
  | identifier hrun =>
    have hrest : rest ≠ [] := fun hnil => nomatch hend hnil
    rw [List.append_assoc]
    exact .identifier (hrun.append hrest more)
  | literal _ hspells =>
    rw [List.cons_append, List.append_assoc, List.cons_append]
    exact .literal (rest ++ more) hspells
  | closer => exact .closer (rest ++ more)
  | dot => exact .dot (rest ++ more)
  | leftParen => exact .leftParen (rest ++ more)
  | rightParen => exact .rightParen (rest ++ more)

/-- An item stays what it is when more follows, if something follows it already or if it is one that
says itself where it ends. -/
theorem IsItem.append {inside : Bool} {cs rest : List Char} {t : Token}
    (h : IsItem inside cs t rest)
    (hend : rest = [] → t = .closer ∨ ∃ content, t = .comment content)
    (hlong : inside = false → ∀ more, cs = '{' :: '{' :: '!' :: '-' :: '-' :: more →
      ['-', '-', '}', '}'] <:+: more)
    (more : List Char) : IsItem inside (cs ++ more) t (rest ++ more) := by
  have hmode := h.proper.2
  cases inside with
  | false =>
    refine Outside.append h (fun hrest => (hend hrest).resolve_left ?_) (hlong rfl) more
    rintro rfl
    cases hmode
  | true =>
    refine Inside.append h (fun hrest => (hend hrest).resolve_right ?_) more
    rintro ⟨content, rfl⟩
    cases hmode

/-! ## Texts with more behind them -/

/-- No opening braces stand across the seam of the two. -/
def Apart (cs ds : List Char) : Prop :=
  cs.getLast? = some '{' → ds.head? ≠ some '{'

theorem Apart.not_isInfix_append {cs ds : List Char} (h : Apart cs ds) (hcs : ¬ ['{', '{'] <:+: cs)
    (hds : ¬ ['{', '{'] <:+: ds) : ¬ ['{', '{'] <:+: cs ++ ds := by
  induction cs with
  | nil => exact hds
  | cons c cs ih =>
    rw [List.infix_cons_iff, not_or] at hcs
    rw [List.cons_append, List.infix_cons_iff, not_or]
    cases cs with
    | nil =>
      refine ⟨?_, hds⟩
      rw [List.nil_append, List.cons_prefix_cons]
      rintro ⟨rfl, more, rfl⟩
      exact h rfl rfl
    | cons d cs =>
      have hrest : Apart (d :: cs) ds := by
        intro hlast
        exact h (by rw [List.getLast?_cons_cons, hlast])
      refine ⟨fun hprefix => hcs.1 ?_, ih hrest hcs.2⟩
      rw [List.cons_append, List.cons_prefix_cons, List.cons_prefix_cons] at hprefix
      obtain ⟨rfl, rfl, -⟩ := hprefix
      exact ⟨cs, rfl⟩

/-- A text stands before nothing or opening braces that do not begin in it. -/
theorem IsText.getLast?_eq {cs content rest : List Char} (h : IsText cs content rest) :
    content.getLast? = some '{' → rest = [] := by
  intro hlast
  cases h with
  | last _ => rfl
  | before hmark =>
    rename_i behind
    obtain ⟨front, rfl⟩ := List.getLast?_eq_some_iff.1 hlast
    have hle := hmark.2 front ('{' :: behind) (by rw [hmark.1]; simp)
    rw [List.length_append, List.length_singleton] at hle
    omega

theorem IsText.eq_append {cs content rest : List Char} (h : IsText cs content rest) :
    cs = content ++ rest ∧ (rest = [] ∨ ['{', '{'] <+: rest) := by
  cases h with
  | last _ => exact ⟨(List.append_nil cs).symm, .inl rfl⟩
  | before hmark => exact ⟨hmark.1, .inr ⟨_, rfl⟩⟩

end Token

namespace Lexeme

open Token

/-- The last text of a source, before another source that begins with the token `u`, if with any. -/
theorem ruleIn_text_append {cs ds rest : List Char} {u : Token} (hne : cs ≠ [])
    (hcs : ¬ ['{', '{'] <:+: cs) (hapart : Apart cs ds) (hu : Outside ds u rest) :
    (∃ content, u = .text (String.ofList content) ∧
      ruleIn false (cs ++ ds) = .taken (.text (String.ofList cs ++ String.ofList content)) rest) ∨
    (∀ content, u ≠ .text content) ∧
      ruleIn false (cs ++ ds) = .taken (.text (String.ofList cs)) ds := by
  have hbraces : ['{', '{'] <+: ds →
      ruleIn false (cs ++ ds) = .taken (.text (String.ofList cs)) ds := by
    intro hds
    refine outsideRule_text hne hcs (fun hlast => ?_) (.inr hds)
    obtain ⟨more, rfl⟩ := hds
    exact absurd rfl (hapart hlast)
  cases hu with
  | comment hcomment =>
    refine .inr ⟨by simp, hbraces ?_⟩
    exact List.IsPrefix.trans ⟨['!'], rfl⟩ hcomment.isPrefix
  | @opener marker =>
    refine .inr ⟨by simp, hbraces ?_⟩
    have hmarker : ['{', '{'] <+: marker.chars := by cases marker <;> decide
    exact hmarker.trans (List.prefix_append _ _)
  | @text _ content _ hcontent htext =>
    refine .inl ⟨content, rfl, ?_⟩
    obtain ⟨rfl, hrest⟩ := htext.eq_append
    have hjoined : Apart cs content := by
      intro hlast
      obtain ⟨c, content, rfl⟩ := List.exists_cons_of_ne_nil hcontent
      exact hapart hlast
    have hlast : (cs ++ content).getLast? = some '{' → rest = [] := by
      intro hlast
      rw [List.getLast?_append] at hlast
      cases hc : content.getLast? with
      | none => exact absurd (List.getLast?_eq_none_iff.1 hc) hcontent
      | some c =>
        rw [hc] at hlast
        exact htext.getLast?_eq (hc.trans hlast)
    rw [← List.append_assoc, ← String.ofList_append]
    exact outsideRule_text (List.append_ne_nil_of_left_ne_nil hne content)
      (hjoined.not_isInfix_append hcs htext.proper) hlast hrest

/-- Wherever a comment opens with two dashes, the longer closing follows. -/
def LongCommentsClose (inside : Bool) (cs : List Char) : Prop :=
  ∀ ts more, Scans inside cs ts false ('{' :: '{' :: '!' :: '-' :: '-' :: more) →
    ['-', '-', '}', '}'] <:+: more

theorem Scans.isSuffix {inside stop : Bool} {cs rest : List Char} {ts : List Token}
    (h : Scans inside cs ts stop rest) : rest <:+ cs := by
  induction h with
  | nil => exact List.suffix_refl _
  | cons hrule _ ih =>
    obtain ⟨read, -, rfl⟩ := advances_ruleIn _ _ _ _ hrule
    exact ih.trans (List.suffix_append read _)

theorem longCommentsClose_of_isSuffix {inside : Bool} {cs : List Char}
    (h : ∀ more, '{' :: '{' :: '!' :: '-' :: '-' :: more <:+ cs → ['-', '-', '}', '}'] <:+: more) :
    LongCommentsClose inside cs :=
  fun _ more hscans => h more hscans.isSuffix

theorem LongCommentsClose.here {inside : Bool} {cs : List Char} (h : LongCommentsClose inside cs)
    (hinside : inside = false) (more : List Char)
    (hcs : cs = '{' :: '{' :: '!' :: '-' :: '-' :: more) : ['-', '-', '}', '}'] <:+: more := by
  subst hinside hcs
  exact h [] more (.nil _ _)

theorem LongCommentsClose.behind {inside : Bool} {cs rest : List Char} {t : Token}
    (h : LongCommentsClose inside cs) (hrule : ruleIn inside cs = .taken t rest) :
    LongCommentsClose (t.opensAfter inside) rest :=
  fun _ more hscans => h _ more (.cons hrule hscans)

theorem Scans.eq_of_nil {inside stop : Bool} {cs rest : List Char}
    (h : Scans inside cs [] stop rest) : rest = cs := by
  cases h
  rfl

/-- The last token of a source is a closer, a comment or a text. -/
theorem cases_of_last {inside : Bool} {cs : List Char} {t : Token} (h : IsItem inside cs t [])
    (hstop : t.opensAfter inside = false) :
    (t = .closer ∨ ∃ content, t = .comment content) ∨ ∃ content, t = .text content := by
  have hmode := h.proper.2
  cases t with
  | closer => exact .inl (.inl rfl)
  | comment content => exact .inl (.inr ⟨content, rfl⟩)
  | text content => exact .inr ⟨content, rfl⟩
  | opener marker => cases hstop
  | _ => cases hmode.trans hstop

/-- A text at the end of a source, and another source behind it. -/
theorem scans_text_append {cs ds : List Char} {content : String} {us : List Token}
    (h : IsItem false cs (.text content) []) (hapart : Apart cs ds)
    (hds : Scans false ds us false []) :
    Scans false (cs ++ ds) (joined merge? [.text content] us) false [] := by
  cases h with
  | text hne htext =>
    obtain ⟨hcs, -⟩ := htext.eq_append
    rw [List.append_nil] at hcs
    subst hcs
    cases hds with
    | nil =>
      rw [List.append_nil, joined_nil_right]
      exact .one (ruleIn_eq_taken_iff.2 (Outside.text hne htext))
    | cons hrule hscans =>
      rcases ruleIn_text_append hne htext.proper hapart (ruleIn_eq_taken_iff.1 hrule) with
        ⟨other, rfl, htaken⟩ | ⟨hother, htaken⟩
      · rw [joined_singleton_cons rfl]
        exact .cons htaken hscans
      · rw [joined_eq_append]
        · exact .cons htaken (.cons hrule hscans)
        · rintro t - u hu
          obtain rfl := Option.some.inj hu
          exact merge?_eq_none_right hother t

/-- **Scans of joined sources.** The scan of the first source ends as it does by itself, and the
second one is scanned as it is by itself. -/
theorem Scans.joined {inside : Bool} {cs ds : List Char} {ts us : List Token}
    (h : Scans inside cs ts false []) (hlong : LongCommentsClose inside cs) (hapart : Apart cs ds)
    (hds : Scans false ds us false []) :
    Scans inside (cs ++ ds) (joined merge? ts us) false [] := by
  generalize hstop : false = stop at h
  generalize hrest : ([] : List Char) = rest at h
  induction h with
  | nil inside cs =>
    subst hstop hrest
    rw [joined_nil_left]
    exact hds
  | @cons inside stop cs cs' rest t ts hrule hscans ih =>
    subst hstop hrest
    have hitem := ruleIn_eq_taken_iff.1 hrule
    by_cases hcs' : cs' = []
    · subst hcs'
      obtain ⟨rfl, hmode, -⟩ := scans_nil_iff.1 hscans
      rcases cases_of_last hitem hmode.symm with ht | ⟨content, rfl⟩
      · have happend := hitem.append (fun _ => ht) hlong.here ds
        rw [joined_eq_append]
        · refine .cons (ruleIn_eq_taken_iff.2 happend) ?_
          rw [← hmode]
          exact hds
        · intro t' ht' u _
          obtain rfl := Option.some.inj ht'
          refine merge?_eq_none_left ?_ u
          rintro content rfl
          rcases ht with h | ⟨_, h⟩ <;> cases h
      · obtain rfl : inside = false := hmode.symm
        exact scans_text_append hitem hapart hds
    · have hts : ts ≠ [] := by
        rintro rfl
        exact hcs' hscans.eq_of_nil.symm
      have happend := hitem.append (fun h => absurd h hcs') hlong.here ds
      obtain ⟨read, -, hread⟩ := advances_ruleIn inside cs t cs' hrule
      have hapart' : Apart cs' ds := by
        intro hlast
        apply hapart
        rw [hread, List.getLast?_append, hlast, Option.some_or]
      rw [joined_cons_of_ne_nil t hts]
      exact .cons (ruleIn_eq_taken_iff.2 happend) (ih (hlong.behind hrule) hapart' rfl rfl)

end Lexeme

end Stencil
