import Stencil.Lexeme
import Stencil.Proofs.Token.Rules

/-!
# Scans

A scan without positions: from one mode and what is left of the source, through tokens, to another
mode and what is left then. Scans compose, so that the scan of a source can be put together from
scans of its parts. `scan_eq_ok_iff` ties them to the lexemes of a source.
-/

namespace Stencil

/-- Whether a marker is open behind the token. -/
def Token.opensAfter : Token → Bool → Bool
  | .opener _, _ => true
  | .closer, _ => false
  | _, inside => inside

namespace Lexeme

def ruleIn (inside : Bool) : Token.Rule :=
  if inside then Token.insideRule else Token.outsideRule

theorem markerAfter_isSome (t : Token) (span : Span) (marker : Option Span) :
    (markerAfter t span marker).isSome = t.opensAfter marker.isSome := by
  cases t <;> rfl

theorem advances_ruleIn (inside : Bool) : Token.Advances (ruleIn inside) := by
  cases inside
  · exact Token.advances_outsideRule
  · exact Token.advances_insideRule

/-- In the mode `inside`, `cs` begins with `ts`, behind which `rest` is left in another mode. -/
inductive Scans : Bool → List Char → List Token → Bool → List Char → Prop
  | nil (inside : Bool) (cs : List Char) : Scans inside cs [] inside cs
  | cons {inside stop : Bool} {cs ds rest : List Char} {t : Token} {ts : List Token} :
    ruleIn inside cs = .taken t ds → Scans (t.opensAfter inside) ds ts stop rest →
    Scans inside cs (t :: ts) stop rest

theorem Scans.one {inside : Bool} {cs rest : List Char} {t : Token}
    (h : ruleIn inside cs = .taken t rest) : Scans inside cs [t] (t.opensAfter inside) rest :=
  .cons h (.nil _ _)

theorem Scans.append {start middle stop : Bool} {cs ds rest : List Char} {ts us : List Token}
    (h : Scans start cs ts middle ds) (h' : Scans middle ds us stop rest) :
    Scans start cs (ts ++ us) stop rest := by
  induction h with
  | nil => exact h'
  | cons hrule _ ih => exact .cons hrule (ih h')

theorem scans_nil_iff {inside stop : Bool} {ts : List Token} {rest : List Char} :
    Scans inside [] ts stop rest ↔ ts = [] ∧ stop = inside ∧ rest = [] := by
  constructor
  · intro h
    cases h with
    | nil => exact ⟨rfl, rfl, rfl⟩
    | cons hrule _ =>
      obtain ⟨read, hne, hread⟩ := advances_ruleIn _ _ _ _ hrule
      exact absurd (List.append_eq_nil_iff.1 hread.symm).1 hne
  · rintro ⟨rfl, rfl, rfl⟩
    exact .nil _ _

theorem scans_cons_iff {inside stop : Bool} {c : Char} {cs : List Char} {ts : List Token} :
    Scans inside (c :: cs) ts stop [] ↔
      ∃ t ds us, ruleIn inside (c :: cs) = .taken t ds ∧ Scans (t.opensAfter inside) ds us stop [] ∧
        ts = t :: us := by
  constructor
  · intro h
    cases h with
    | cons hrule hscans => exact ⟨_, _, _, hrule, hscans, rfl⟩
  · rintro ⟨t, ds, us, hrule, hscans, rfl⟩
    exact .cons hrule hscans

/-- Both sides go token by token, and every token takes a character, so that the limit lasts. -/
theorem scanFrom_eq_ok_iff {limit : Nat} {p : Position} {marker : Option Span} {cs : List Char}
    (h : cs.length ≤ limit) (ts : List Token) :
    (∃ lexemes, scanFrom limit p marker cs = .ok lexemes ∧ lexemes.map Lexeme.token = ts) ↔
      Scans marker.isSome cs ts false [] := by
  induction limit generalizing p marker cs ts with
  | zero =>
    obtain rfl : cs = [] := List.eq_nil_of_length_eq_zero (by omega)
    rw [scans_nil_iff]
    cases marker <;> simp [scanFrom, eq_comm]
  | succ limit ih =>
    cases cs with
    | nil =>
      rw [scans_nil_iff]
      cases marker <;> simp [scanFrom, eq_comm]
    | cons c cs =>
      rw [scans_cons_iff, scanFrom]
      have hrule : ruleFor marker = ruleIn marker.isSome := rfl
      rw [hrule]
      cases htaken : ruleIn marker.isSome (c :: cs) with
      | broken fault => simp
      | refused => simp
      | taken t ds =>
        obtain ⟨read, hne, hread⟩ := advances_ruleIn _ _ _ _ htaken
        have hlength : ds.length ≤ limit := by
          have := congrArg List.length hread
          have := List.length_pos_iff.2 hne
          rw [List.length_cons] at h
          rw [List.length_cons, List.length_append] at *
          omega
        constructor
        · rintro ⟨lexemes, hlexemes, rfl⟩
          obtain ⟨more, hmore, rfl⟩ := map_eq_ok.1 hlexemes
          have hscans := (ih hlength _).1 ⟨more, hmore, rfl⟩
          rw [markerAfter_isSome] at hscans
          exact ⟨t, ds, _, rfl, hscans, rfl⟩
        · rintro ⟨t', ds', us, heq, hscans, rfl⟩
          obtain ⟨rfl, rfl⟩ := Token.Match.taken.inj heq
          rw [← markerAfter_isSome] at hscans
          obtain ⟨more, hmore, rfl⟩ := (ih hlength us).2 hscans
          exact ⟨_, map_eq_ok.2 ⟨more, hmore, rfl⟩, rfl⟩

theorem scan_eq_ok_iff (source : String) (ts : List Token) :
    (∃ lexemes, scan source = .ok lexemes ∧ lexemes.map Lexeme.token = ts) ↔
      Scans false source.toList ts false [] := by
  unfold scan
  exact scanFrom_eq_ok_iff (Nat.le_refl _) ts

end Lexeme

end Stencil
