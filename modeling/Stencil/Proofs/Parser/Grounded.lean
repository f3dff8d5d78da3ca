import Stencil.Proofs.Outcome
import Stencil.Proofs.Parser.Confined

/-!
# What is found wrong before the end

That the input ends is found only where it does, and that nothing matched only by a choice without
alternatives or by a rule beyond the bound on its depth. `Grounds left least p`: where no more than
`left` items are left, `p` reads at least `least` of them or finds something wrong, which is neither
of the two if it stands before the end.

A rule that contains itself behind an item has one item less left there. So a bound on its depth
that is no less than what is left is not exceeded before the end.
-/

namespace Stencil

namespace ParseError

variable {ε : Type}

/-- There is something that the error is about. -/
def Cause.IsConcrete : Cause ε → Prop
  | unexpectedEnd _ => False
  | noAlternative => False
  | unexpected _ _ => True
  | failure _ => True

/-- Before the end, which is at `last`, the error is about what stands there. -/
def Grounded (last : Nat) (e : ParseError ε) : Prop :=
  e.position < last → e.cause.IsConcrete

theorem Grounded.inRule {last : Nat} {e : ParseError ε} (h : e.Grounded last) (name : String) :
    (e.inRule name).Grounded last :=
  h

theorem grounded_failure (last : Nat) (fault : ε) (pos : Nat) :
    (failure fault pos).Grounded last :=
  fun _ => trivial

theorem grounded_of_le {last : Nat} {e : ParseError ε} (h : last ≤ e.position) :
    e.Grounded last :=
  fun hlt => absurd h (Nat.not_le_of_lt hlt)

end ParseError

namespace Parser

variable {ε ι α β : Type}

/-- The answer goes on to `first` or is an error that is grounded. -/
def Reaches (last first : Nat) : Except (ParseError ε) (Nat × α) → Prop
  | .ok (stop, _) => first ≤ stop
  | .error e => e.Grounded last

def Grounds (left least : Nat) (p : Parser ε ι α) : Prop :=
  ∀ input pos, input.length ≤ pos + left → Reaches input.length (pos + least) (p input pos)

section Reaches

variable {last first mid : Nat}

theorem Reaches.mono {r : Except (ParseError ε) (Nat × α)} (h : Reaches last mid r)
    (hfirst : first ≤ mid) : Reaches last first r := by
  cases r with
  | error e => exact h
  | ok result => exact Nat.le_trans hfirst h

theorem Reaches.bind {r : Except (ParseError ε) (Nat × α)}
    {f : Nat × α → Except (ParseError ε) (Nat × β)} (h : Reaches last mid r)
    (hf : ∀ stop a, mid ≤ stop → Reaches last first (f (stop, a))) :
    Reaches last first (r >>= f) := by
  cases r with
  | error e => exact h
  | ok result => exact hf result.1 result.2 h

end Reaches

section Sequences

variable {left least more : Nat} {p : Parser ε ι α} {q : Parser ε ι β}

theorem Grounds.mono {left' least' : Nat} (hp : Grounds left least p) (hleft : left' ≤ left)
    (hleast : least' ≤ least) : Grounds left' least' p := by
  intro input pos hpos
  exact (hp input pos (by omega)).mono (by omega)

theorem Grounds.satisfy [ToString ι] (left : Nat) (expected : String) (f : ι → Option α) :
    Grounds (ε := ε) left 1 (satisfy expected f) := by
  intro input pos _
  unfold Parser.satisfy
  cases hread : input[pos]?.bind f with
  | some a => exact Nat.le_refl (pos + 1)
  | none =>
    show (unexpected expected input pos).Grounded input.length
    unfold unexpected
    cases hitem : input[pos]? with
    | none => exact ParseError.grounded_of_le (List.getElem?_eq_none_iff.1 hitem)
    | some item => exact fun _ => trivial

theorem Grounds.map (f : α → β) (hp : Grounds left least p) : Grounds left least (p.map f) := by
  intro input pos hpos
  have hp := hp input pos hpos
  unfold Parser.map
  cases hres : p input pos with
  | error e => rwa [hres] at hp
  | ok result => rwa [hres] at hp

/-- The second parser has less left by what the first one reads. -/
theorem Grounds.pair (hp : Grounds left least p) (hq : Grounds (left - least) more q) :
    Grounds left (least + more) (pair p q) := by
  intro input pos hpos
  have hp := hp input pos hpos
  unfold Parser.pair
  cases hres : p input pos with
  | error e => rwa [hres] at hp
  | ok result =>
    obtain ⟨mid, a⟩ := result
    rw [hres] at hp
    have hmid : pos + least ≤ mid := hp
    have hq := hq input mid (by omega)
    simp only
    cases hres' : q input mid with
    | error e => rwa [hres'] at hq
    | ok result' =>
      rw [hres'] at hq
      have hstop : mid + more ≤ result'.1 := hq
      show pos + (least + more) ≤ result'.1
      omega

theorem Grounds.withContext (name : String) (hp : Grounds left least p) :
    Grounds left least (withContext p name) := by
  intro input pos hpos
  have hp := hp input pos hpos
  unfold Parser.withContext
  cases hres : p input pos with
  | error e =>
    rw [hres] at hp
    exact ParseError.Grounded.inRule hp name
  | ok result => rwa [hres] at hp

theorem Grounds.optional (hp : Grounds left least p) : Grounds left 0 (optional p) := by
  intro input pos hpos
  have hp := (hp input pos hpos).mono (Nat.le_add_right pos least)
  unfold Parser.optional
  cases hres : p input pos with
  | error e => exact Nat.le_refl pos
  | ok result => rwa [hres] at hp

end Sequences

section Around

variable {left least more most : Nat} {before after : Parser ε ι Unit} {p : Parser ε ι α}

theorem Grounds.discard (hp : Grounds left least p) : Grounds left least (discard p) :=
  hp.map _

theorem Grounds.preceded (hbefore : Grounds left least before)
    (hp : Grounds (left - least) more p) : Grounds left (least + more) (preceded before p) :=
  (hbefore.pair hp).map _

theorem Grounds.delimited (hbefore : Grounds left least before)
    (hp : Grounds (left - least) more p) (hafter : Grounds (left - least - more) most after) :
    Grounds left (least + (more + most)) (delimited before p after) :=
  (hbefore.pair (hp.pair hafter)).map _

end Around

section Alternatives

variable {left least : Nat} {p : Parser ε ι α}

theorem Grounds.choice {ps : List (Parser ε ι α)} (hps : ps ≠ [])
    (h : ∀ p ∈ ps, Grounds left least p) : Grounds left least (choice ps) := by
  intro input pos hpos
  obtain ⟨p, hp, heq⟩ := exists_choice_eq input pos hps
  rw [heq]
  exact h p hp input pos hpos

/-- Rounds that count go forward, from where the first one begins. -/
theorem le_collect {p : Parser ε ι α} {counts : Nat → Nat → Bool} {input : List ι} (first : Nat)
    (h : ∀ pos next a, first ≤ pos → p input pos = .ok (next, a) → counts pos next → pos ≤ next)
    (limit : Nat) {pos : Nat} (hpos : first ≤ pos) :
    pos ≤ (collect counts p input limit pos).1 := by
  induction limit generalizing pos with
  | zero => exact Nat.le_refl pos
  | succ limit ih =>
    unfold collect
    cases hres : p input pos with
    | error e => exact Nat.le_refl pos
    | ok result =>
      simp only
      split
      · next hcounts =>
        have hnext := h pos result.1 result.2 hpos hres hcounts
        exact Nat.le_trans hnext (ih (Nat.le_trans hpos hnext))
      · exact Nat.le_refl pos

/-- Repetition never fails. -/
theorem grounds_many (left : Nat) (p : Parser ε ι α) : Grounds left 0 (many p) := by
  intro input pos _
  refine le_collect pos (fun pos next a _ _ hcounts => ?_) _ (Nat.le_refl pos)
  exact Nat.le_of_lt (of_decide_eq_true hcounts)

theorem Grounds.many1 (hp : Grounds left least p) : Grounds left least (many1 p) := by
  intro input pos hpos
  have hfirst := hp input pos hpos
  unfold Parser.many1
  cases hres : p input pos with
  | error e => rwa [hres] at hfirst
  | ok result =>
    rw [hres] at hfirst
    have hnext : pos + least ≤ result.1 := hfirst
    refine Nat.le_trans hnext (le_collect pos ?_ _ (by omega))
    intro pos' next a hpos' hread _
    have hround := hp input pos' (by omega)
    rw [hread] at hround
    exact Nat.le_of_add_right_le hround

end Alternatives

end Parser

end Stencil
