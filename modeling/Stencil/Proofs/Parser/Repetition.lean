import Stencil.Proofs.Parser.Confined

/-!
# Repetition

Rounds of a parser that go forward make up a `Chain`, which ends where the parser `Rests`: it fails
there, or reads nothing. From a position there is at most one chain to such a place
(`Chain.unique`), and repetition finds it if it is given enough rounds (`chain_collect`).

`many_maximal`: for every parser that never goes back, `many` reads the chain to its end, and
`many1` reads what the parser reads and then what `many` does. The two stop at rounds of different
kinds, which are the same if there are none that go back.
-/

namespace Stencil.Parser

variable {ε ι α : Type}

/-- What `p` reads never ends before it begins and, if it begins at a position that there is, not
behind the last one. -/
def Forward (p : Parser ε ι α) : Prop :=
  ∀ input pos stop a, p input pos = .ok (stop, a) →
    pos ≤ stop ∧ stop ≤ max pos (lastPosition input)

/-! ## Chains -/

/-- Rounds from one position to another, each of which goes forward, with the places where they end
and the values. -/
inductive Chain (p : Parser ε ι α) (input : List ι) : Nat → List (Nat × α) → Nat → Prop
  | nil (pos : Nat) : Chain p input pos [] pos
  | cons {pos next stop : Nat} {a : α} {rounds : List (Nat × α)}
      (hround : p input pos = .ok (next, a)) (hnext : pos < next)
      (hrest : Chain p input next rounds stop) : Chain p input pos ((next, a) :: rounds) stop

/-- `p` fails at a position or reads nothing there. -/
def Rests (p : Parser ε ι α) (input : List ι) (pos : Nat) : Prop :=
  ∀ next a, p input pos = .ok (next, a) → next = pos

section Chain

variable {p : Parser ε ι α} {input : List ι} {pos stop stop' : Nat}
variable {rounds rounds' : List (Nat × α)}

theorem Chain.unique (h : Chain p input pos rounds stop) (hrests : Rests p input stop)
    (h' : Chain p input pos rounds' stop') (hrests' : Rests p input stop') :
    rounds' = rounds ∧ stop' = stop := by
  induction h generalizing rounds' stop' with
  | nil pos =>
    cases h' with
    | nil => exact ⟨rfl, rfl⟩
    | cons hround hnext hrest => exact absurd (hrests _ _ hround) (Nat.ne_of_gt hnext)
  | cons hround hnext hrest ih =>
    cases h' with
    | nil => exact absurd (hrests' _ _ hround) (Nat.ne_of_gt hnext)
    | cons hround' hnext' hrest' =>
      obtain ⟨rfl, rfl⟩ := Prod.mk.inj (Except.ok.inj (hround.symm.trans hround'))
      obtain ⟨rfl, rfl⟩ := ih hrests hrest' hrests'
      exact ⟨rfl, rfl⟩

/-- From `first` on, what `p` reads never ends before it begins, and no further on than `last`. -/
def ForwardFrom (first last : Nat) (p : Parser ε ι α) (input : List ι) : Prop :=
  ∀ pos next a, first ≤ pos → p input pos = .ok (next, a) → pos ≤ next ∧ next ≤ max pos last

/-- Every round takes a place. -/
theorem Chain.length_le {first last : Nat} (hp : ForwardFrom first last p input)
    (h : Chain p input pos rounds stop) (hpos : first ≤ pos) : rounds.length ≤ last - pos := by
  induction h with
  | nil pos => exact Nat.zero_le _
  | cons hround hnext hrest ih =>
    have hlast := (hp _ _ _ hpos hround).2
    have ih := ih (by omega)
    rw [List.length_cons]
    omega

theorem Chain.bounds {first last : Nat} (hp : ForwardFrom first last p input)
    (h : Chain p input pos rounds stop) (hpos : first ≤ pos) :
    pos ≤ stop ∧ stop ≤ max pos last := by
  induction h with
  | nil pos => exact ⟨Nat.le_refl pos, Nat.le_max_left _ _⟩
  | cons hround hnext hrest ih =>
    have hlast := (hp _ _ _ hpos hround).2
    have ih := ih (by omega)
    omega

/-- Of the rounds that do not go back, those that go forward count. -/
def CountsForward (counts : Nat → Nat → Bool) : Prop :=
  ∀ pos next, pos ≤ next → (counts pos next = true ↔ pos < next)

theorem countsForward_lt : CountsForward fun pos next => decide (pos < next) :=
  fun _ _ _ => decide_eq_true_iff

theorem countsForward_ne : CountsForward fun pos next => decide (next ≠ pos) :=
  fun _ _ _ => by rw [decide_eq_true_iff]; omega

/-- Repetition finds the chain to its end, when there are as many rounds as places. -/
theorem chain_collect {counts : Nat → Nat → Bool} (hcounts : CountsForward counts)
    {first last limit : Nat} (hp : ForwardFrom first last p input) (hpos : first ≤ pos)
    (hlimit : last ≤ pos + limit) :
    ∃ rounds stop, Chain p input pos rounds stop ∧ Rests p input stop ∧
      collect counts p input limit pos = (stop, rounds.map (·.2)) := by
  induction limit generalizing pos with
  | zero =>
    refine ⟨[], pos, .nil pos, fun next a hround => ?_, rfl⟩
    have := hp pos next a hpos hround
    omega
  | succ limit ih =>
    unfold collect
    cases hround : p input pos with
    | error e =>
      refine ⟨[], pos, .nil pos, fun next a h => ?_, rfl⟩
      rw [hround] at h
      cases h
    | ok result =>
      obtain ⟨next, a⟩ := result
      have hnext := (hp pos next a hpos hround).1
      by_cases hlt : pos < next
      · obtain ⟨rounds, stop, hchain, hrests, heq⟩ := ih (Nat.le_trans hpos hnext) (by omega)
        refine ⟨(next, a) :: rounds, stop, .cons hround hlt hchain, hrests, ?_⟩
        simp only [(hcounts pos next hnext).2 hlt, if_true, heq, List.map_cons]
      · refine ⟨[], pos, .nil pos, fun next' a' h => ?_, ?_⟩
        · rw [hround] at h
          obtain ⟨rfl, -⟩ := Prod.mk.inj (Except.ok.inj h)
          omega
        · simp only [mt (hcounts pos next hnext).1 hlt, Bool.false_eq_true, if_false, List.map_nil]

/-- It does not matter which of the rounds that do not go forward count, and how many rounds there
are beyond the places. -/
theorem collect_congr {counts counts' : Nat → Nat → Bool} (hcounts : CountsForward counts)
    (hcounts' : CountsForward counts') {first last limit limit' : Nat}
    (hp : ForwardFrom first last p input) (hpos : first ≤ pos) (hlimit : last ≤ pos + limit)
    (hlimit' : last ≤ pos + limit') :
    collect counts p input limit pos = collect counts' p input limit' pos := by
  obtain ⟨rounds, stop, hchain, hrests, heq⟩ := chain_collect hcounts hp hpos hlimit
  obtain ⟨rounds', stop', hchain', hrests', heq'⟩ := chain_collect hcounts' hp hpos hlimit'
  obtain ⟨rfl, rfl⟩ := hchain.unique hrests hchain' hrests'
  rw [heq, heq']

end Chain

/-! ## Parsers that never go back -/

section Forward

variable {p : Parser ε ι α}

theorem Forward.forwardFrom (hp : Forward p) (input : List ι) :
    ForwardFrom 0 (lastPosition input) p input :=
  fun pos next a _ hround => hp input pos next a hround

theorem Forward.many_eq (hp : Forward p) (input : List ι) (pos : Nat) :
    ∃ rounds stop, Chain p input pos rounds stop ∧ Rests p input stop ∧
      many p input pos = .ok (stop, rounds.map (·.2)) := by
  have hlimit : lastPosition input ≤ pos + (lastPosition input - pos) := by omega
  obtain ⟨rounds, stop, hchain, hrests, heq⟩ :=
    chain_collect countsForward_lt (hp.forwardFrom input) (Nat.zero_le pos) hlimit
  exact ⟨rounds, stop, hchain, hrests, congrArg Except.ok heq⟩

theorem Forward.many1_eq (hp : Forward p) :
    many1 p = (pair p (many p)).map fun (a, as) => a :: as := by
  funext input pos
  unfold many1 Parser.map pair many
  cases p input pos with
  | error e => rfl
  | ok result =>
    obtain ⟨next, a⟩ := result
    have hlimit : lastPosition input ≤ next + (lastPosition input - next) := by omega
    simp only
    rw [collect_congr countsForward_ne countsForward_lt (hp.forwardFrom input) (Nat.zero_le next)
      (Nat.le_add_left _ _) hlimit]

/-- **Repetition is maximal.** A parser that never goes back is repeated as long as it goes forward:
`many` never fails and gives the values of the one chain of rounds to a place where the parser fails
or reads nothing. `many1` is the parser and then its repetition, with the first value in front. -/
theorem many_maximal (hp : Forward p) :
    (∀ input pos, ∃ rounds stop, many p input pos = .ok (stop, rounds.map (·.2)) ∧
      Chain p input pos rounds stop ∧ Rests p input stop ∧
      ∀ rounds' stop', Chain p input pos rounds' stop' → Rests p input stop' →
        rounds' = rounds ∧ stop' = stop) ∧
    many1 p = (pair p (many p)).map fun (a, as) => a :: as := by
  refine ⟨fun input pos => ?_, hp.many1_eq⟩
  obtain ⟨rounds, stop, hchain, hrests, heq⟩ := hp.many_eq input pos
  exact ⟨rounds, stop, heq, hchain, hrests, fun _ _ => hchain.unique hrests⟩

/-- Two items at a time from in front of position 5 on, whether there are any or not. -/
def pairsBelowFive : Parser Unit Nat Nat := fun _ pos =>
  if pos < 5 then .ok (pos + 2, pos) else .error ⟨.noAlternative, pos, none⟩

theorem forward_pairsBelowFive : Forward pairsBelowFive := by
  intro input pos stop a hround
  have hlast : 2 ^ 64 - 1 ≤ lastPosition input := Nat.le_max_right _ _
  unfold pairsBelowFive at hround
  by_cases hpos : pos < 5
  · rw [if_pos hpos] at hround
    obtain ⟨rfl, -⟩ := Prod.mk.inj (Except.ok.inj hround)
    omega
  · rw [if_neg hpos] at hround
    cases hround

/-- The chain goes on behind the end of the input. -/
theorem many_maximal_pairsBelowFive :
    Forward pairsBelowFive ∧ many pairsBelowFive [] 0 = .ok (6, [0, 2, 4]) ∧
      many1 pairsBelowFive [] 3 =
        ((pair pairsBelowFive (many pairsBelowFive)).map fun (a, as) => a :: as) [] 3 := by
  have hchain : Chain pairsBelowFive [] 0 [(2, 0), (4, 2), (6, 4)] 6 :=
    .cons rfl (by decide) (.cons rfl (by decide) (.cons rfl (by decide) (.nil 6)))
  have hrests : Rests pairsBelowFive [] 6 := fun _ _ h => nomatch h
  obtain ⟨hmany, hmany1⟩ := many_maximal forward_pairsBelowFive
  obtain ⟨rounds, stop, heq, -, -, hunique⟩ := hmany [] 0
  obtain ⟨rfl, rfl⟩ := hunique _ _ hchain hrests
  exact ⟨forward_pairsBelowFive, heq, by rw [hmany1]⟩

/-- Goes back by one, as far as it can. -/
def countdown : Parser Unit Nat Nat := fun _ pos =>
  if pos = 0 then .error ⟨.noAlternative, pos, none⟩ else .ok (pos - 1, pos)

-- rounds that go back count for `many1` only
example : many1 countdown [] 3 = .ok (0, [3, 2, 1]) ∧
    ((pair countdown (many countdown)).map fun (a, as) => a :: as) [] 3 = .ok (2, [3]) :=
  ⟨rfl, rfl⟩

end Forward

end Stencil.Parser
