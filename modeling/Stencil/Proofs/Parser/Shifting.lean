import Stencil.Proofs.Parser.Combination

/-!
# Items before a parser

`ShiftInvariant p`: `p` never looks at what stands before the position where it begins, and counts
from there, so that other items in front move its answer on and change nothing else.

`Shifts left least p q` compares two parsers where no more than `left` items are left: `q` reads at
least `least` items there or fails, and stays in bounds, and `p` answers the same behind any other
items. A rule that contains itself behind an item has one item less left there, so two bounds on
its depth that are no less than what is left may differ (`Shifts.pair`). The combinators keep this,
so it holds of whatever is put together from parsers of which it holds (`Combination.shifts`).
-/

namespace Stencil

variable {ε ι α β γ : Type}

def ParseError.shift (n : Nat) (e : ParseError ε) : ParseError ε :=
  { e with position := n + e.position }

namespace Parser

/-- The same answer `n` positions further on. -/
def shift (n : Nat) : Except (ParseError ε) (Nat × α) → Except (ParseError ε) (Nat × α)
  | .ok (stop, a) => .ok (n + stop, a)
  | .error e => .error (e.shift n)

def ShiftInvariant (p : Parser ε ι α) : Prop :=
  ∀ before input pos, p (before ++ input) (before.length + pos) = shift before.length (p input pos)

/-! ## Answers -/

/-- `r` is `r'` moved by `n`, and `r'` goes on by `least` at least and not behind `last`, as far as
it does not fail. -/
def Moves (n pos least last : Nat) (r : Except (ParseError ε) (Nat × α)) :
    Except (ParseError ε) (Nat × α) → Prop
  | .ok (stop, a) => r = .ok (n + stop, a) ∧ pos + least ≤ stop ∧ stop ≤ last
  | .error e => r = .error (e.shift n) ∧ pos ≤ e.position ∧ e.position ≤ last

def Shifts (left least : Nat) (p q : Parser ε ι α) : Prop :=
  ∀ before input pos, input.length ≤ pos + left →
    Moves before.length pos least (max pos input.length)
      (p (before ++ input) (before.length + pos)) (q input pos)

section Moves

variable {n pos least last : Nat} {r r' : Except (ParseError ε) (Nat × α)}

theorem Moves.eq_shift (h : Moves n pos least last r r') : r = shift n r' := by
  cases r' with
  | ok result => exact h.1
  | error e => exact h.1

theorem Moves.within (h : Moves n pos least last r r') : Within pos last r' := by
  cases r' with
  | ok result => exact ⟨by have := h.2.1; omega, h.2.2⟩
  | error e => exact h.2

theorem Moves.mono {pos' least' last' : Nat} (h : Moves n pos least last r r') (hpos : pos' ≤ pos)
    (hleast : pos' + least' ≤ pos + least) (hlast : last ≤ last') :
    Moves n pos' least' last' r r' := by
  cases r' with
  | ok result => exact ⟨h.1, Nat.le_trans hleast h.2.1, Nat.le_trans h.2.2 hlast⟩
  | error e => exact ⟨h.1, Nat.le_trans hpos h.2.1, Nat.le_trans h.2.2 hlast⟩

theorem Moves.map (f : α → β) (h : Moves n pos least last r r') :
    Moves n pos least last (r >>= fun s => .ok (s.1, f s.2))
      (r' >>= fun s => .ok (s.1, f s.2)) := by
  cases r' with
  | ok result => exact ⟨by rw [h.1, ok_bind], h.2⟩
  | error e => exact ⟨by rw [h.1, error_bind], h.2⟩

theorem Moves.bind {f g : Nat × α → Except (ParseError ε) (Nat × β)} {total : Nat}
    (h : Moves n pos least last r r')
    (hf : ∀ mid a, pos + least ≤ mid → mid ≤ last →
      Moves n pos total last (f (n + mid, a)) (g (mid, a))) :
    Moves n pos total last (r >>= f) (r' >>= g) := by
  cases r' with
  | ok result =>
    obtain ⟨mid, a⟩ := result
    obtain ⟨rfl, hmid, hlast⟩ := h
    exact hf mid a hmid hlast
  | error e =>
    obtain ⟨rfl, hposition⟩ := h
    exact ⟨rfl, hposition⟩

end Moves

/-! ## Combinators -/

section Shifts

variable {left least more : Nat} {p p' : Parser ε ι α} {q q' : Parser ε ι β}

theorem Shifts.mono {left' least' : Nat} (h : Shifts left least p p') (hleft : left' ≤ left)
    (hleast : least' ≤ least) : Shifts left' least' p p' :=
  fun before input pos hpos =>
    (h before input pos (by omega)).mono (Nat.le_refl pos) (by omega) (Nat.le_refl _)

theorem getElem?_append_add (before input : List ι) (pos : Nat) :
    (before ++ input)[before.length + pos]? = input[pos]? := by
  rw [List.getElem?_append_right (Nat.le_add_right _ _), Nat.add_sub_cancel_left]

theorem Shifts.satisfy [ToString ι] (left : Nat) (expected : String) (f : ι → Option α) :
    Shifts (ε := ε) left 1 (satisfy expected f) (satisfy expected f) := by
  intro before input pos _
  unfold Parser.satisfy unexpected
  rw [getElem?_append_add]
  cases hitem : input[pos]? with
  | none => exact ⟨rfl, Nat.le_refl pos, Nat.le_max_left _ _⟩
  | some item =>
    have hlt : pos < input.length := (List.getElem?_eq_some_iff.1 hitem).1
    rw [Option.bind_some]
    cases f item with
    | none => exact ⟨rfl, Nat.le_refl pos, Nat.le_max_left _ _⟩
    | some a => exact ⟨rfl, Nat.le_refl (pos + 1), by omega⟩

theorem Shifts.map (f : α → β) (hp : Shifts left least p p') :
    Shifts left least (p.map f) (p'.map f) := by
  intro before input pos hpos
  rw [map_eq_bind, map_eq_bind]
  exact (hp before input pos hpos).map f

/-- The second parser has less left by what the first one reads. -/
theorem Shifts.pair (hp : Shifts left least p p')
    (hq : least ≤ left → Shifts (left - least) more q q') :
    Shifts left (least + more) (pair p q) (pair p' q') := by
  intro before input pos hpos
  rw [pair_eq_bind, pair_eq_bind]
  refine (hp before input pos hpos).bind fun mid a hmid hlast => ?_
  have hq := hq (by omega) before input mid (by omega)
  exact (hq.mono (by omega) (by omega) (by omega)).map _

/-- Where nothing is left, a parser that reads an item fails, whatever stands behind it. -/
theorem Shifts.pair_of_end {δ : Type} {q : Parser ε ι β} {q' : Parser ε ι γ} (f : α × β → δ)
    (f' : α × γ → δ) (hp : Shifts 0 1 p p') (least : Nat) :
    Shifts 0 least ((Parser.pair p q).map f) ((Parser.pair p' q').map f') := by
  intro before input pos hpos
  have hp := hp before input pos hpos
  simp only [map_eq_bind, pair_eq_bind]
  cases hres : p' input pos with
  | error e =>
    rw [hres] at hp
    rw [hp.1]
    exact ⟨rfl, hp.2⟩
  | ok result =>
    rw [hres] at hp
    obtain ⟨-, hmid, hlast⟩ := hp
    omega

theorem Shifts.withContext (name : String) (hp : Shifts left least p p') :
    Shifts left least (withContext p name) (withContext p' name) := by
  intro before input pos hpos
  have hp := hp before input pos hpos
  unfold Parser.withContext
  cases hres : p' input pos with
  | ok result =>
    rw [hres] at hp
    rw [hp.1]
    exact ⟨rfl, hp.2⟩
  | error e =>
    rw [hres] at hp
    rw [hp.1]
    exact ⟨rfl, hp.2⟩

theorem Shifts.optional (hp : Shifts left least p p') :
    Shifts left 0 (optional p) (optional p') := by
  intro before input pos hpos
  have hp := hp before input pos hpos
  unfold Parser.optional
  cases hres : p' input pos with
  | ok result =>
    rw [hres] at hp
    rw [hp.1]
    exact ⟨rfl, Nat.le_trans (Nat.le_add_right pos least) hp.2.1, hp.2.2⟩
  | error e =>
    rw [hres] at hp
    rw [hp.1]
    exact ⟨rfl, Nat.le_refl pos, Nat.le_max_left _ _⟩

end Shifts

section Around

variable {left least more most : Nat} {l l' r r' : Parser ε ι Unit} {p p' : Parser ε ι α}

theorem Shifts.discard (hp : Shifts left least p p') :
    Shifts left least (discard p) (discard p') :=
  hp.map _

theorem Shifts.preceded (hl : Shifts left least l l')
    (hp : least ≤ left → Shifts (left - least) more p p') :
    Shifts left (least + more) (preceded l p) (preceded l' p') :=
  (hl.pair hp).map _

theorem Shifts.delimited (hl : Shifts left least l l')
    (hp : least ≤ left → Shifts (left - least) more p p')
    (hr : least + more ≤ left → Shifts (left - least - more) most r r') :
    Shifts left (least + (more + most)) (delimited l p r) (delimited l' p' r') :=
  (hl.pair fun hleast => (hp hleast).pair fun hmore => hr (by omega)).map _

end Around

/-! ## Alternatives -/

section Alternatives

variable {left least : Nat}

theorem further_shift (n : Nat) (best : Option (ParseError ε)) (e : ParseError ε) :
    ParseError.further (best.map (·.shift n)) (e.shift n) =
      (ParseError.further best e).shift n := by
  cases best with
  | none => rfl
  | some b =>
    have hlt : (b.shift n).position < (e.shift n).position ↔ b.position < e.position :=
      Nat.add_lt_add_iff_left
    simp only [ParseError.further, Option.map_some, hlt]
    split <;> rfl

/-- Of the errors, the best one before is in bounds, too. -/
theorem Shifts.choice {ps ps' : List (Parser ε ι α)} (h : List.Forall₂ (Shifts left least) ps ps') :
    Shifts left least (choice ps) (choice ps') := by
  intro before input pos hpos
  suffices ∀ best : Option (ParseError ε),
      (∀ b, best = some b → pos ≤ b.position ∧ b.position ≤ max pos input.length) →
      Moves before.length pos least (max pos input.length)
        (choiceFrom (best.map (·.shift before.length)) ps (before ++ input) (before.length + pos))
        (choiceFrom best ps' input pos) from this none (by simp)
  induction h with
  | nil =>
    intro best hbest
    cases best with
    | none => exact ⟨rfl, Nat.le_refl pos, Nat.le_max_left _ _⟩
    | some b => exact ⟨rfl, hbest b rfl⟩
  | @cons p p' ps ps' hp _ ih =>
    intro best hbest
    have hp := hp before input pos hpos
    unfold choiceFrom
    cases hres : p' input pos with
    | ok result =>
      rw [hres] at hp
      rw [hp.1]
      exact ⟨rfl, hp.2⟩
    | error e =>
      rw [hres] at hp
      rw [hp.1]
      simp only [further_shift]
      refine ih (some (ParseError.further best e)) fun b hb => ?_
      obtain rfl := Option.some.inj hb
      rcases further_eq best e with heq | heq
      · rw [heq]
        exact hp.2
      · exact hbest _ heq

end Alternatives

/-! ## Repetition -/

section Repetition

variable {left least : Nat} {p p' : Parser ε ι α}

theorem Shifts.forwardFrom (hp : Shifts left least p p') {input : List ι} {pos : Nat}
    (hpos : input.length ≤ pos + left) : ForwardFrom pos input.length p' input := by
  intro pos' next a hfirst hround
  have hp := (hp [] input pos' (by omega)).within
  rw [hround] at hp
  exact hp

theorem Shifts.collect {counts : Nat → Nat → Bool} (hcounts : CountsForward counts)
    (hp : Shifts left least p p') (before : List ι) {input : List ι} (limit : Nat) {pos : Nat}
    (hpos : input.length ≤ pos + left) :
    collect counts p (before ++ input) limit (before.length + pos) =
      (before.length + (Parser.collect counts p' input limit pos).1,
        (Parser.collect counts p' input limit pos).2) := by
  induction limit generalizing pos with
  | zero => rfl
  | succ limit ih =>
    have hround := hp before input pos hpos
    unfold Parser.collect
    cases hres : p' input pos with
    | error e =>
      rw [hres] at hround
      rw [hround.1]
    | ok result =>
      obtain ⟨next, a⟩ := result
      rw [hres] at hround
      obtain ⟨hmoved, hnext, hlast⟩ := hround
      rw [hmoved]
      have hsame : counts (before.length + pos) (before.length + next) = counts pos next := by
        rw [Bool.eq_iff_iff, hcounts _ _ (by omega), hcounts _ _ (by omega)]
        omega
      simp only [hsame]
      split
      · rw [ih (by omega)]
      · rfl

/-- As many rounds as there are positions are enough, also behind other items. -/
theorem Shifts.collect_eq {counts : Nat → Nat → Bool} (hcounts : CountsForward counts)
    (hp : Shifts left least p p') (before : List ι) {input : List ι} {limit limit' pos : Nat}
    (hpos : input.length ≤ pos + left) (hlimit : input.length ≤ pos + limit)
    (hlimit' : input.length ≤ pos + limit') :
    ∃ stop as, Parser.collect counts p (before ++ input) limit (before.length + pos) =
        (before.length + stop, as) ∧
      Parser.collect counts p' input limit' pos = (stop, as) ∧
      pos ≤ stop ∧ stop ≤ max pos input.length := by
  have hforward := hp.forwardFrom hpos
  obtain ⟨rounds, stop, hchain, hrests, heq⟩ :=
    chain_collect hcounts hforward (Nat.le_refl pos) hlimit'
  refine ⟨stop, rounds.map (·.2), ?_, heq, hchain.bounds hforward (Nat.le_refl pos)⟩
  rw [hp.collect hcounts before limit hpos,
    collect_congr hcounts hcounts hforward (Nat.le_refl pos) hlimit hlimit', heq]

theorem length_le_lastPosition_append (before input : List ι) :
    before.length + input.length ≤ lastPosition (before ++ input) := by
  rw [← List.length_append]
  exact length_le_lastPosition _

theorem Shifts.many (hp : Shifts left least p p') : Shifts left 0 (many p) (many p') := by
  intro before input pos hpos
  have hlast := length_le_lastPosition input
  have hlast' := length_le_lastPosition_append before input
  have hlimit : input.length ≤ pos + (lastPosition (before ++ input) - (before.length + pos)) := by
    omega
  have hlimit' : input.length ≤ pos + (lastPosition input - pos) := by omega
  obtain ⟨stop, as, heq, heq', hbounds⟩ :=
    hp.collect_eq countsForward_lt before hpos hlimit hlimit'
  unfold Parser.many
  rw [heq, heq']
  exact ⟨rfl, hbounds⟩

theorem Shifts.many1 (hp : Shifts left least p p') : Shifts left least (many1 p) (many1 p') := by
  intro before input pos hpos
  have hfirst := hp before input pos hpos
  unfold Parser.many1
  cases hres : p' input pos with
  | error e =>
    rw [hres] at hfirst
    rw [hfirst.1]
    exact ⟨rfl, hfirst.2⟩
  | ok result =>
    obtain ⟨next, a⟩ := result
    rw [hres] at hfirst
    obtain ⟨hmoved, hnext, hlast⟩ := hfirst
    rw [hmoved]
    have hitems := length_le_lastPosition input
    have hitems' := length_le_lastPosition_append before input
    have hlimit : input.length ≤ next + lastPosition (before ++ input) := by omega
    have hlimit' : input.length ≤ next + lastPosition input := by omega
    obtain ⟨stop, as, heq, heq', hbounds⟩ :=
      hp.collect_eq countsForward_ne before (by omega) hlimit hlimit'
    simp only [heq, heq']
    exact ⟨rfl, by omega, by omega⟩

end Repetition

/-! ## Combinations -/

theorem Shifts.shiftInvariant {least : Nat} {p : Parser ε ι α} (h : ∀ left, Shifts left least p p) :
    ShiftInvariant p :=
  fun before input pos =>
    (h input.length before input pos (Nat.le_add_left _ _)).eq_shift

theorem Shifts.inBounds {least : Nat} {p : Parser ε ι α} (h : ∀ left, Shifts left least p p) :
    InBounds p :=
  fun input pos => (h input.length [] input pos (Nat.le_add_left _ _)).within

theorem shift_zero (r : Except (ParseError ε) (Nat × α)) : shift 0 r = r := by
  cases r <;> simp [shift, ParseError.shift]

/-- What stands in front may be nothing. -/
theorem Shifts.eq {left least : Nat} {p q : Parser ε ι α} (h : Shifts left least p q)
    {input : List ι} {pos : Nat} (hpos : input.length ≤ pos + left) :
    p input pos = q input pos := by
  have heq := (h [] input pos hpos).eq_shift
  rwa [List.nil_append, List.length_nil, Nat.zero_add, shift_zero] at heq

theorem ShiftInvariant.shifts {p : Parser ε ι α} (hp : ShiftInvariant p) (hin : InBounds p)
    (left : Nat) : Shifts left 0 p p := by
  intro before input pos _
  have hwithin := hin input pos
  rw [hp before input pos]
  cases hres : p input pos with
  | ok result =>
    rw [hres] at hwithin
    exact ⟨rfl, hwithin⟩
  | error e =>
    rw [hres] at hwithin
    exact ⟨rfl, hwithin⟩

namespace Combination

variable [ToString ι] [DecidableEq ι]

theorem shifts {c : Combination ε ι α} (h : c.Leaves fun p => InBounds p ∧ ShiftInvariant p)
    (left : Nat) : Shifts left 0 c.parser c.parser := by
  have hitem : ∀ {α : Type} (left : Nat) (expected : String) (f : ι → Option α),
      Shifts (ε := ε) left 0 (Parser.satisfy expected f) (Parser.satisfy expected f) :=
    fun left _ _ => (Shifts.satisfy left _ _).mono (Nat.le_refl left) (Nat.zero_le 1)
  induction c generalizing left with
  | rule p => exact h.2.shifts h.1 left
  | equal item => exact hitem left _ _
  | satisfy expected f => exact hitem left _ _
  | map c f ih => exact (ih h left).map f
  | discard c ih => exact (ih h left).discard
  | pair c d ihc ihd => exact (ihc h.1 left).pair fun _ => ihd h.2 left
  | preceded c d ihc ihd => exact (ihc h.1 left).preceded fun _ => ihd h.2 left
  | delimited l c r ihl ihc ihr =>
    exact (ihl h.1 left).delimited (fun _ => ihc h.2.1 left) fun _ => ihr h.2.2 left
  | choice cs ih =>
    refine Shifts.choice (List.forall₂_same.2 fun p hp => ?_)
    obtain ⟨i, rfl⟩ := List.mem_ofFn.1 hp
    exact ih i (h i) left
  | optional c ih => exact (ih h left).optional
  | many c ih => exact (ih h left).many
  | many1 c ih => exact (ih h left).many1
  | withContext c name ih => exact (ih h left).withContext name

end Combination

end Parser

end Stencil
