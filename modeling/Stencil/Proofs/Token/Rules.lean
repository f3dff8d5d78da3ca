import Stencil.Proofs.Outcome
import Stencil.Proofs.Text.Blank
import Stencil.Token.Rules

/-!
# What the lexical rules take

Every token takes characters off the front (`advances_outsideRule`, `advances_insideRule`). For
each kind of token there is a lemma on characters that are taken as it, and on what may follow
them.
-/

namespace Stencil.Token

/-! ## Several rules -/

theorem firstOf_of_taken {rule : Rule} {cs rest : List Char} {t : Token}
    (h : rule cs = .taken t rest) (rules : List Rule) :
    firstOf (rule :: rules) cs = .taken t rest := by
  rw [firstOf, h]

theorem firstOf_of_refused {rule : Rule} {cs : List Char} (h : rule cs = .refused)
    (rules : List Rule) : firstOf (rule :: rules) cs = firstOf rules cs := by
  rw [firstOf, h]

/-- What the rule takes is a part of the characters that is not empty. -/
def Advances (rule : Rule) : Prop :=
  ∀ cs t rest, rule cs = .taken t rest → ∃ read, read ≠ [] ∧ cs = read ++ rest

theorem Advances.firstOf {rules : List Rule} (h : ∀ rule ∈ rules, Advances rule) :
    Advances (firstOf rules) := by
  induction rules with
  | nil =>
    intro cs t rest htaken
    cases htaken
  | cons rule rules ih =>
    intro cs t rest htaken
    rw [Token.firstOf] at htaken
    split at htaken
    · exact ih (fun r hr => h r (List.mem_cons_of_mem _ hr)) cs t rest htaken
    · exact h rule List.mem_cons_self cs t rest htaken

theorem advances_takeWhile {p : Char → Bool} {rule : Rule} (token : List Char → Token)
    (h : ∀ cs, rule cs = match cs.takeWhile p with
      | [] => .refused
      | read => .taken (token read) (cs.dropWhile p)) : Advances rule := by
  intro cs t rest htaken
  rw [h] at htaken
  split at htaken
  · cases htaken
  · rename_i read hread
    obtain ⟨-, rfl⟩ := Match.taken.inj htaken
    exact ⟨cs.takeWhile p, hread, List.takeWhile_append_dropWhile.symm⟩

/-! ## Texts and comments -/

theorem splitAtOpener_append (cs : List Char) :
    (splitAtOpener cs).1 ++ (splitAtOpener cs).2 = cs := by
  induction cs using splitAtOpener.induct with
  | case1 cs => rfl
  | case2 c cs hc ih => rw [splitAtOpener, List.cons_append, ih]; exact hc
  | case3 => rfl

theorem advances_textRule : Advances textRule := by
  intro cs t rest htaken
  have hcs := splitAtOpener_append cs
  unfold textRule at htaken
  split at htaken
  · cases htaken
  · rename_i content after hne hsplit
    obtain ⟨-, rfl⟩ := Match.taken.inj htaken
    rw [hsplit] at hcs
    refine ⟨content, ?_, hcs.symm⟩
    rintro rfl
    exact hne rfl

theorem eq_append_of_cut? {mark cs before behind : List Char}
    (h : cut? mark cs = some (before, behind)) : cs = before ++ (mark ++ behind) := by
  induction cs generalizing before with
  | nil =>
    rw [cut?] at h
    split at h
    · rename_i hmark
      simp_all
    · cases h
  | cons c cs ih =>
    rw [cut?] at h
    split at h
    · rename_i hprefix
      obtain ⟨more, hmore⟩ := List.isPrefixOf_iff_prefix.1 hprefix
      obtain ⟨rfl, rfl⟩ := Prod.mk.inj (Option.some.inj h)
      rw [← hmore, List.drop_left, List.nil_append]
    · obtain ⟨⟨before', behind'⟩, hcut, heq⟩ := Option.map_eq_some_iff.1 h
      obtain ⟨rfl, rfl⟩ := Prod.mk.inj heq
      rw [ih hcut, List.cons_append]

theorem shortComment_append {cs rest : List Char} {t : Token}
    (h : shortComment cs = .taken t rest) : ∃ read, cs = read ++ rest := by
  unfold shortComment at h
  split at h
  · rename_i content behind hcut
    obtain ⟨-, rfl⟩ := Match.taken.inj h
    exact ⟨content ++ ['}', '}'], by rw [eq_append_of_cut? hcut, List.append_assoc]⟩
  · cases h

theorem advances_commentRule : Advances commentRule := by
  intro cs t rest htaken
  unfold commentRule at htaken
  split at htaken
  · rename_i cs
    split at htaken
    · rename_i content behind hcut
      obtain ⟨-, rfl⟩ := Match.taken.inj htaken
      refine ⟨['{', '{', '!', '-', '-'] ++ (content ++ ['-', '-', '}', '}']), by simp, ?_⟩
      rw [eq_append_of_cut? hcut]
      simp
    · obtain ⟨read, hread⟩ := shortComment_append htaken
      exact ⟨'{' :: '{' :: '!' :: read, by simp, by rw [hread]; rfl⟩
  · obtain ⟨read, hread⟩ := shortComment_append htaken
    exact ⟨'{' :: '{' :: '!' :: read, by simp, by rw [hread]; rfl⟩
  · cases htaken

theorem openerRule_eq_taken {cs rest : List Char} {t : Token}
    (h : openerRule cs = .taken t rest) :
    ∃ marker : Marker, t = .opener marker ∧ cs = marker.chars ++ rest := by
  unfold openerRule at h
  split at h
  case h_1 => cases h; exact ⟨.blockOpen, rfl, rfl⟩
  case h_2 => cases h; exact ⟨.invertedOpen, rfl, rfl⟩
  case h_3 => cases h; exact ⟨.blockClose, rfl, rfl⟩
  case h_4 => cases h; exact ⟨.interpolation, rfl, rfl⟩
  case h_5 => cases h

theorem advances_openerRule : Advances openerRule := by
  intro cs t rest htaken
  obtain ⟨marker, -, hcs⟩ := openerRule_eq_taken htaken
  refine ⟨marker.chars, ?_, hcs⟩
  cases marker <;> exact List.cons_ne_nil _ _

theorem advances_outsideRule : Advances outsideRule := by
  refine .firstOf ?_
  simp [advances_commentRule, advances_openerRule, advances_textRule]

/-! ## Literals -/

theorem literalBody_append {cs value rest : List Char} (h : literalBody cs = .ok (value, rest)) :
    ∃ read, cs = read ++ rest := by
  induction cs using literalBody.induct generalizing value with
  | case1 => cases h
  | case2 cs =>
    rw [literalBody] at h
    obtain ⟨-, rfl⟩ := Prod.mk.inj (Except.ok.inj h)
    exact ⟨['"'], rfl⟩
  | case3 => cases h
  | case4 c cs e he ih =>
    simp only [literalBody, he] at h
    obtain ⟨⟨value', rest'⟩, hbody, heq⟩ := map_eq_ok.1 h
    obtain ⟨-, rfl⟩ := Prod.mk.inj heq
    obtain ⟨read, rfl⟩ := ih hbody
    exact ⟨'\\' :: c :: read, rfl⟩
  | case5 c cs he =>
    simp only [literalBody, he] at h
    cases h
  | case6 c cs hquote hend hescape ih =>
    rw [literalBody] at h
    · obtain ⟨⟨value', rest'⟩, hbody, heq⟩ := map_eq_ok.1 h
      obtain ⟨-, rfl⟩ := Prod.mk.inj heq
      obtain ⟨read, rfl⟩ := ih hbody
      exact ⟨c :: read, rfl⟩
    all_goals assumption

theorem advances_literalRule : Advances literalRule := by
  intro cs t rest htaken
  unfold literalRule at htaken
  split at htaken
  · split at htaken
    · rename_i value behind hbody
      obtain ⟨-, rfl⟩ := Match.taken.inj htaken
      obtain ⟨read, hread⟩ := literalBody_append hbody
      exact ⟨'"' :: read, by simp, by rw [hread]; rfl⟩
    · cases htaken
  · cases htaken

/-! ## The rules inside of markers -/

theorem advances_closerRule : Advances closerRule := by
  intro cs t rest htaken
  unfold closerRule at htaken
  split at htaken
  · obtain ⟨-, rfl⟩ := Match.taken.inj htaken
    exact ⟨['}', '}'], by simp, rfl⟩
  · cases htaken

theorem advances_symbolRule : Advances symbolRule := by
  intro cs t rest htaken
  unfold symbolRule at htaken
  split at htaken
  case h_4 => cases htaken
  all_goals
    obtain ⟨-, rfl⟩ := Match.taken.inj htaken
    exact ⟨[_], by simp, rfl⟩

theorem advances_insideRule : Advances insideRule := by
  have hwhitespace : Advances whitespaceRule :=
    advances_takeWhile (fun read => .whitespace (String.ofList read)) fun cs => rfl
  have hidentifier : Advances identifierRule :=
    advances_takeWhile (fun read => .identifier (String.ofList read)) fun cs => rfl
  refine .firstOf ?_
  simp [hwhitespace, advances_closerRule, advances_literalRule, advances_symbolRule, hidentifier]

end Stencil.Token
