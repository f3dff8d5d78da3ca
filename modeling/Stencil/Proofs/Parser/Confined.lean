import Stencil.Parser.Combinators

/-!
# How far parsers go

* `Confined S p`: where something in `S` lies ahead, `p` goes no further than to there, neither with
  what it reads nor with what it finds wrong.
* `Blames S p`: only what `p` finds wrong lies no further than there.
* `FailsAt p input pos`: `p` fails at `pos` and finds nothing wrong but what stands there.

`S` is about an item or the end of the input. The combinators keep all three.
-/

namespace Stencil.Parser

variable {ε ι α β : Type}

/-- The answer is about places from `first` to `last`. -/
def Within (first last : Nat) : Except (ParseError ε) (Nat × α) → Prop
  | .ok (stop, _) => first ≤ stop ∧ stop ≤ last
  | .error e => first ≤ e.position ∧ e.position ≤ last

def Confined (S : Option ι → Prop) (p : Parser ε ι α) : Prop :=
  ∀ input pos last, pos ≤ last → S input[last]? → Within pos last (p input pos)

def Blames (S : Option ι → Prop) (p : Parser ε ι α) : Prop :=
  ∀ input pos last e, pos ≤ last → S input[last]? → p input pos = .error e →
    pos ≤ e.position ∧ e.position ≤ last

def FailsAt (p : Parser ε ι α) (input : List ι) (pos : Nat) : Prop :=
  ∃ e, p input pos = .error e ∧ e.position = pos

section Confined

variable {S : Option ι → Prop} {p : Parser ε ι α} {q : Parser ε ι β}

/-! ## Single items -/

theorem position_unexpected [ToString ι] (expected : String) (input : List ι) (pos : Nat) :
    (unexpected (ε := ε) expected input pos).position = pos := by
  unfold unexpected
  cases input[pos]? <;> rfl

theorem Confined.satisfy [ToString ι] (expected : String) {f : ι → Option α}
    (h : ∀ item, S item → item.bind f = none) : Confined (ε := ε) S (satisfy expected f) := by
  intro input pos last hpos hlast
  unfold Parser.satisfy
  cases hread : input[pos]?.bind f with
  | none =>
    show pos ≤ (unexpected expected input pos).position ∧ _ ≤ last
    rw [position_unexpected]
    exact ⟨Nat.le_refl pos, hpos⟩
  | some a =>
    have hne : pos ≠ last := by
      rintro rfl
      rw [h _ hlast] at hread
      cases hread
    exact ⟨Nat.le_succ pos, by omega⟩

theorem Blames.satisfy [ToString ι] (expected : String) (f : ι → Option α) :
    Blames (ε := ε) S (satisfy expected f) := by
  intro input pos last e hpos _ he
  unfold Parser.satisfy at he
  cases hread : input[pos]?.bind f with
  | none =>
    rw [hread] at he
    obtain rfl := Except.error.inj he
    rw [position_unexpected]
    exact ⟨Nat.le_refl pos, hpos⟩
  | some a =>
    rw [hread] at he
    cases he

/-! ## Sequences -/

theorem Confined.map (f : α → β) (hp : Confined S p) : Confined S (p.map f) := by
  intro input pos last hpos hlast
  have hp := hp input pos last hpos hlast
  unfold Parser.map
  cases hres : p input pos with
  | error e => rwa [hres] at hp
  | ok result => rwa [hres] at hp

theorem Blames.map (f : α → β) (hp : Blames S p) : Blames S (p.map f) := by
  intro input pos last e hpos hlast he
  unfold Parser.map at he
  cases hres : p input pos with
  | error e' =>
    rw [hres] at he
    obtain rfl := Except.error.inj he
    exact hp input pos last e' hpos hlast hres
  | ok result =>
    rw [hres] at he
    cases he

theorem Confined.pair (hp : Confined S p) (hq : Confined S q) : Confined S (pair p q) := by
  intro input pos last hpos hlast
  have hp := hp input pos last hpos hlast
  unfold Parser.pair
  cases hres : p input pos with
  | error e => rwa [hres] at hp
  | ok result =>
    obtain ⟨mid, a⟩ := result
    rw [hres] at hp
    have hq := hq input mid last hp.2 hlast
    simp only
    cases hres' : q input mid with
    | error e =>
      rw [hres'] at hq
      exact ⟨Nat.le_trans hp.1 hq.1, hq.2⟩
    | ok result' =>
      rw [hres'] at hq
      exact ⟨Nat.le_trans hp.1 hq.1, hq.2⟩

theorem Confined.blames_pair (hp : Confined S p) (hq : Blames S q) :
    Blames S (Parser.pair p q) := by
  intro input pos last e hpos hlast he
  have hp := hp input pos last hpos hlast
  unfold Parser.pair at he
  cases hres : p input pos with
  | error e' =>
    rw [hres] at he hp
    obtain rfl := Except.error.inj he
    exact hp
  | ok result =>
    obtain ⟨mid, a⟩ := result
    rw [hres] at he hp
    simp only at he
    cases hres' : q input mid with
    | error e' =>
      rw [hres'] at he
      obtain rfl := Except.error.inj he
      have hq := hq input mid last e' hp.2 hlast hres'
      exact ⟨Nat.le_trans hp.1 hq.1, hq.2⟩
    | ok result' =>
      rw [hres'] at he
      cases he

end Confined

section Around

variable {S : Option ι → Prop} {left right : Parser ε ι Unit} {p : Parser ε ι α}

theorem Confined.discard (hp : Confined S p) : Confined S (discard p) :=
  hp.map _

theorem Blames.discard (hp : Blames S p) : Blames S (discard p) :=
  hp.map _

theorem Confined.preceded (hleft : Confined S left) (hp : Confined S p) :
    Confined S (preceded left p) :=
  (hleft.pair hp).map _

theorem Confined.blames_preceded (hleft : Confined S left) (hp : Blames S p) :
    Blames S (Parser.preceded left p) :=
  (hleft.blames_pair hp).map _

theorem Confined.delimited (hleft : Confined S left) (hp : Confined S p)
    (hright : Confined S right) : Confined S (delimited left p right) :=
  (hleft.pair (hp.pair hright)).map _

theorem Confined.blames_delimited (hleft : Confined S left) (hp : Confined S p)
    (hright : Blames S right) : Blames S (Parser.delimited left p right) :=
  (hleft.blames_pair (hp.blames_pair hright)).map _

theorem Confined.withContext (name : String) (hp : Confined S p) :
    Confined S (withContext p name) := by
  intro input pos last hpos hlast
  have hp := hp input pos last hpos hlast
  unfold Parser.withContext
  cases hres : p input pos with
  | error e => rwa [hres] at hp
  | ok result => rwa [hres] at hp

theorem Blames.withContext (name : String) (hp : Blames S p) : Blames S (withContext p name) := by
  intro input pos last e hpos hlast he
  unfold Parser.withContext at he
  cases hres : p input pos with
  | error e' =>
    rw [hres] at he
    obtain rfl := Except.error.inj he
    exact hp input pos last e' hpos hlast hres
  | ok result =>
    rw [hres] at he
    cases he

theorem Confined.optional (hp : Confined S p) : Confined S (optional p) := by
  intro input pos last hpos hlast
  have hp := hp input pos last hpos hlast
  unfold Parser.optional
  cases hres : p input pos with
  | error e => exact ⟨Nat.le_refl pos, hpos⟩
  | ok result => rwa [hres] at hp

end Around

/-! ## Alternatives -/

section Choice

variable {S : Option ι → Prop} {p : Parser ε ι α} {ps : List (Parser ε ι α)}

/-- One of two errors is the further one. -/
theorem further_eq (best : Option (ParseError ε)) (e : ParseError ε) :
    ParseError.further best e = e ∨ best = some (ParseError.further best e) := by
  unfold ParseError.further
  cases best with
  | none => exact .inl rfl
  | some b =>
    simp only
    split
    · exact .inl rfl
    · exact .inr rfl

/-- A choice answers as one of its alternatives does: the first that succeeds, or else one of those
that fail. -/
theorem exists_choice_eq (input : List ι) (pos : Nat) (hps : ps ≠ []) :
    ∃ p ∈ ps, choice ps input pos = p input pos := by
  suffices ∀ best : Option (ParseError ε), best ≠ none ∨ ps ≠ [] →
      (∃ p ∈ ps, choiceFrom best ps input pos = p input pos) ∨
        ∃ b, best = some b ∧ choiceFrom best ps input pos = .error b by
    rcases this none (.inr hps) with h | ⟨b, hb, -⟩
    · exact h
    · cases hb
  clear hps
  induction ps with
  | nil =>
    intro best hne
    cases best with
    | none => simp at hne
    | some b => exact .inr ⟨b, rfl, rfl⟩
  | cons p ps ih =>
    intro best _
    unfold choiceFrom
    cases hres : p input pos with
    | ok result => exact .inl ⟨p, List.mem_cons_self, hres.symm⟩
    | error e =>
      rcases ih (some (ParseError.further best e)) (.inl (by simp)) with ⟨q, hq, heq⟩ | ⟨b, hb, heq⟩
      · exact .inl ⟨q, List.mem_cons_of_mem p hq, heq⟩
      · obtain rfl := Option.some.inj hb
        rcases further_eq best e with hfurther | hbest
        · refine .inl ⟨p, List.mem_cons_self, ?_⟩
          show choiceFrom _ ps input pos = _
          rw [heq, hfurther, hres]
        · exact .inr ⟨_, hbest, heq⟩

theorem Confined.choice (h : ∀ p ∈ ps, Confined S p) : Confined S (choice ps) := by
  intro input pos last hpos hlast
  by_cases hps : ps = []
  · subst hps
    exact ⟨Nat.le_refl pos, hpos⟩
  · obtain ⟨p, hp, heq⟩ := exists_choice_eq input pos hps
    rw [heq]
    exact h p hp input pos last hpos hlast

/-- What holds of the errors of all alternatives holds of the error of the choice. -/
theorem exists_choice_eq_error {input : List ι} {pos : Nat} {P : ParseError ε → Prop}
    (hps : ps ≠ []) (h : ∀ p ∈ ps, ∃ e, p input pos = .error e ∧ P e) :
    ∃ e, choice ps input pos = .error e ∧ P e := by
  obtain ⟨p, hp, heq⟩ := exists_choice_eq input pos hps
  rw [heq]
  exact h p hp

/-- An error counts if the alternatives behind it fail no further on. -/
theorem choice_eq_error_of_failsAt {input : List ι} {pos : Nat} {e : ParseError ε}
    (h : p input pos = .error e) (hpos : pos ≤ e.position) (hps : ∀ q ∈ ps, FailsAt q input pos) :
    choice (p :: ps) input pos = .error e := by
  have hrest : choiceFrom (some e) ps input pos = .error e := by
    induction ps with
    | nil => rfl
    | cons q ps ih =>
      obtain ⟨e', he', hposition⟩ := hps q List.mem_cons_self
      have hfurther : ParseError.further (some e) e' = e := by
        unfold ParseError.further
        exact if_neg (by omega)
      unfold choiceFrom
      rw [he']
      simp only [hfurther]
      exact ih fun q hq => hps q (List.mem_cons_of_mem _ hq)
  unfold choice choiceFrom
  rw [h]
  exact hrest

end Choice

/-! ## Repetition -/

section Repetition

variable {S : Option ι → Prop} {p : Parser ε ι α}

theorem Confined.collect (hp : Confined S p) {input : List ι} {last : Nat} (hlast : S input[last]?)
    (counts : Nat → Nat → Bool) (limit : Nat) : ∀ {pos : Nat}, pos ≤ last →
      pos ≤ (collect counts p input limit pos).1 ∧
        (collect counts p input limit pos).1 ≤ last := by
  induction limit with
  | zero => exact fun hpos => ⟨Nat.le_refl _, hpos⟩
  | succ limit ih =>
    intro pos hpos
    have hp := hp input pos last hpos hlast
    unfold Parser.collect
    cases hres : p input pos with
    | error e => exact ⟨Nat.le_refl _, hpos⟩
    | ok result =>
      obtain ⟨next, a⟩ := result
      rw [hres] at hp
      simp only
      split
      · obtain ⟨hfirst, hstop⟩ := ih hp.2
        exact ⟨Nat.le_trans hp.1 hfirst, hstop⟩
      · exact ⟨Nat.le_refl _, hpos⟩

theorem Confined.many (hp : Confined S p) : Confined S (many p) :=
  fun _ _ _ hpos hlast => hp.collect hlast _ _ hpos

theorem Confined.many1 (hp : Confined S p) : Confined S (many1 p) := by
  intro input pos last hpos hlast
  have hfirst := hp input pos last hpos hlast
  unfold Parser.many1
  cases hres : p input pos with
  | error e => rwa [hres] at hfirst
  | ok result =>
    obtain ⟨next, a⟩ := result
    rw [hres] at hfirst
    obtain ⟨hnext, hstop⟩ := hp.collect hlast _ (lastPosition input) hfirst.2
    exact ⟨Nat.le_trans hfirst.1 hnext, hstop⟩

end Repetition

/-! ## Failures on the spot -/

section FailsAt

variable {p : Parser ε ι α} {input : List ι} {pos : Nat}

theorem FailsAt.satisfy [ToString ι] {expected : String} {f : ι → Option α}
    (h : input[pos]?.bind f = none) : FailsAt (ε := ε) (satisfy expected f) input pos := by
  refine ⟨unexpected expected input pos, ?_, position_unexpected expected input pos⟩
  unfold Parser.satisfy
  rw [h]

theorem FailsAt.map (f : α → β) (hp : FailsAt p input pos) : FailsAt (p.map f) input pos := by
  obtain ⟨e, he, hposition⟩ := hp
  refine ⟨e, ?_, hposition⟩
  unfold Parser.map
  rw [he]

theorem FailsAt.pair_left (q : Parser ε ι β) (hp : FailsAt p input pos) :
    FailsAt (pair p q) input pos := by
  obtain ⟨e, he, hposition⟩ := hp
  refine ⟨e, ?_, hposition⟩
  unfold Parser.pair
  rw [he]

theorem FailsAt.withContext (name : String) (hp : FailsAt p input pos) :
    FailsAt (withContext p name) input pos := by
  obtain ⟨e, he, hposition⟩ := hp
  refine ⟨e.inRule name, ?_, hposition⟩
  unfold Parser.withContext
  rw [he]

end FailsAt

end Stencil.Parser
