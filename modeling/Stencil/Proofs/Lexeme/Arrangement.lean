import Stencil.Proofs.Lexeme.Scans
import Stencil.Proofs.Token.Inside

/-!
# How the tokens of a source follow each other

`Scans.arranged`: texts, names and runs of blanks are as long as they can be, so that no two of them
stand side by side, and openers and closers alternate, with texts and comments outside of markers
and everything else inside.
-/

namespace Stencil

namespace Token

/-! ## Arrangements -/

/-- Texts are something without opening braces, names and runs of blanks consist of their kind of
character. -/
def Proper : Token → Prop
  | text content => content.toList ≠ [] ∧ ¬ ['{', '{'] <:+: content.toList
  | identifier name => name.toList ≠ [] ∧ ∀ c ∈ name.toList, isIdentifierChar c = true
  | whitespace blanks => blanks.toList ≠ [] ∧ ∀ c ∈ blanks.toList, Text.isBlank c = true
  | _ => True

/-- Side by side, these would be one token. -/
inductive Joins : Token → Token → Prop
  | text (content other : String) : Joins (.text content) (.text other)
  | identifier (name other : String) : Joins (.identifier name) (.identifier other)
  | whitespace (blanks other : String) : Joins (.whitespace blanks) (.whitespace other)

def isOpener : Token → Bool
  | opener _ => true
  | _ => false

/-- Whether a token stands inside of markers. An opener stands before one. -/
def isInside : Token → Bool
  | text _ => false
  | comment _ => false
  | opener _ => false
  | _ => true

/-- Every token stands where it may, and the last marker is closed. -/
def Alternate (inside : Bool) : List Token → Prop
  | [] => inside = false
  | t :: ts => t.isInside = inside ∧ Alternate (t.opensAfter inside) ts

structure Arranged (ts : List Token) : Prop where
  proper : ∀ t ∈ ts, t.Proper
  apart : ∀ before t u after, ts = before ++ t :: u :: after → ¬ t.Joins u
  alternate : Alternate false ts

/-! ## Items -/

theorem IsText.proper {cs content rest : List Char} (h : IsText cs content rest) :
    ¬ ['{', '{'] <:+: content := by
  cases h with
  | last hno => exact hno
  | before hmark =>
    rintro ⟨earlier, later, rfl⟩
    have hlength := hmark.2 earlier _ (by rw [hmark.1]; simp only [List.append_assoc]; rfl)
    simp only [List.length_append, List.length_cons, List.length_nil] at hlength
    omega

theorem Outside.proper {cs rest : List Char} {t : Token} (h : Outside cs t rest) :
    t.Proper ∧ t.isInside = false := by
  cases h with
  | comment _ => exact ⟨trivial, rfl⟩
  | opener _ _ => exact ⟨trivial, rfl⟩
  | text hne htext =>
    refine ⟨?_, rfl⟩
    rw [Proper, String.toList_ofList]
    exact ⟨hne, htext.proper⟩

theorem Inside.proper {cs rest : List Char} {t : Token} (h : Inside cs t rest) :
    t.Proper ∧ t.isInside = true := by
  cases h with
  | whitespace hrun =>
    refine ⟨?_, rfl⟩
    rw [Proper, String.toList_ofList]
    exact ⟨hrun.ne_nil, hrun.all⟩
  | identifier hrun =>
    refine ⟨?_, rfl⟩
    rw [Proper, String.toList_ofList]
    exact ⟨hrun.ne_nil, hrun.all⟩
  | _ => exact ⟨trivial, rfl⟩

/-- What follows a run does not begin with another one. -/
theorem MaximalRun.not_maximalRun {p : Char → Bool} {run rest run' rest' : List Char}
    (h : MaximalRun p run (run' ++ rest')) (h' : MaximalRun p run' rest) : False := by
  obtain ⟨c, cs, rfl⟩ := List.exists_cons_of_ne_nil h'.ne_nil
  have hc := h'.all c List.mem_cons_self
  rw [h.ends c rfl] at hc
  cases hc

theorem Outside.not_joins {cs ds rest : List Char} {t u : Token} (h : Outside cs t ds)
    (h' : Outside ds u rest) : ¬ t.Joins u := by
  intro hjoins
  cases h with
  | comment _ => cases hjoins
  | opener _ _ => cases hjoins
  | text hne htext =>
    cases h' with
    | comment _ => cases hjoins
    | opener _ _ => cases hjoins
    | text hne' htext' =>
      cases htext with
      | last _ =>
        have hread := textRule_eq_taken_iff.2 ⟨_, hne', htext', rfl⟩
        cases hread
      | before _ => exact htext'.not_isPrefix hne' ⟨_, rfl⟩

theorem Inside.not_joins {cs ds rest : List Char} {t u : Token} (h : Inside cs t ds)
    (h' : Inside ds u rest) : ¬ t.Joins u := by
  intro hjoins
  cases hjoins with
  | text => cases h
  | identifier =>
    cases h with
    | identifier hrun =>
      cases h' with
      | identifier hrun' => exact hrun.not_maximalRun hrun'
  | whitespace =>
    cases h with
    | whitespace hrun =>
      cases h' with
      | whitespace hrun' => exact hrun.not_maximalRun hrun'

theorem IsItem.proper {inside : Bool} {cs rest : List Char} {t : Token}
    (h : IsItem inside cs t rest) : t.Proper ∧ t.isInside = inside := by
  cases inside with
  | false => exact Outside.proper h
  | true => exact Inside.proper h

/-- Tokens that join stand in one mode and do not change it. -/
theorem Joins.opensAfter_eq {t u : Token} (h : t.Joins u) (inside : Bool) :
    t.opensAfter inside = inside := by
  cases h <;> rfl

theorem IsItem.not_joins {inside : Bool} {cs ds rest : List Char} {t u : Token}
    (h : IsItem inside cs t ds) (h' : IsItem (t.opensAfter inside) ds u rest) : ¬ t.Joins u := by
  intro hjoins
  rw [hjoins.opensAfter_eq] at h'
  cases inside with
  | false => exact Outside.not_joins h h' hjoins
  | true => exact Inside.not_joins h h' hjoins

end Token

/-! ## Scans -/

namespace Lexeme

open Token

theorem ruleIn_eq_taken_iff {inside : Bool} {cs rest : List Char} {t : Token} :
    ruleIn inside cs = .taken t rest ↔ IsItem inside cs t rest := by
  cases inside
  · exact outsideRule_eq_taken_iff
  · exact insideRule_eq_taken_iff

theorem Scans.proper {inside stop : Bool} {cs rest : List Char} {ts : List Token}
    (h : Scans inside cs ts stop rest) : ∀ t ∈ ts, t.Proper := by
  induction h with
  | nil => simp
  | cons hrule _ ih =>
    intro u hu
    rcases List.mem_cons.1 hu with rfl | hu
    · exact (ruleIn_eq_taken_iff.1 hrule).proper.1
    · exact ih u hu

theorem Scans.apart {inside stop : Bool} {cs rest : List Char} {ts : List Token}
    (h : Scans inside cs ts stop rest) :
    ∀ before t u after, ts = before ++ t :: u :: after → ¬ t.Joins u := by
  induction h with
  | nil => simp
  | @cons inside stop cs ds rest t ts hrule hscans ih =>
    intro before t' u after hts
    cases before with
    | nil =>
      obtain ⟨rfl, rfl⟩ := List.cons.inj hts
      cases hscans with
      | cons hrule' _ =>
        exact (ruleIn_eq_taken_iff.1 hrule).not_joins (ruleIn_eq_taken_iff.1 hrule')
    | cons first before => exact ih before t' u after (List.cons.inj hts).2

theorem Scans.alternate {inside : Bool} {cs rest : List Char} {ts : List Token}
    (h : Scans inside cs ts false rest) : Alternate inside ts := by
  generalize hstop : false = stop at h
  induction h with
  | nil => exact hstop.symm
  | cons hrule _ ih => exact ⟨(ruleIn_eq_taken_iff.1 hrule).proper.2, ih hstop⟩

theorem Scans.arranged {cs rest : List Char} {ts : List Token}
    (h : Scans false cs ts false rest) : Arranged ts :=
  ⟨h.proper, h.apart, h.alternate⟩

end Lexeme

end Stencil
