import Stencil.Proofs.Parser.Abortable
import Stencil.Proofs.Parser.Repetition

/-!
# Parsers put together from others

A `Combination` says how a parser is put together, down to functions that are parsers of their own.
It stands for a parser (`parser`), and for one that aborts when a repetition does not come to an end
within some number of rounds (`within`).

`InBounds p`: neither what `p` reads nor what it finds wrong lies before the position where it
begins or behind the end, unless it begins there. If this holds of the functions, it holds of what
is put together from them (`inBounds_of_leaves`), and no repetition goes on for more rounds than
there are items ahead (`within_eq`): a round that counts takes an item.
-/

namespace Stencil.Parser

variable {ε ι α : Type}

/-- How a parser is put together. -/
inductive Combination (ε ι : Type) : Type → Type 1
  | rule {α : Type} (p : Parser ε ι α) : Combination ε ι α
  | equal (item : ι) : Combination ε ι ι
  | satisfy {α : Type} (expected : String) (f : ι → Option α) : Combination ε ι α
  | map {α β : Type} (c : Combination ε ι α) (f : α → β) : Combination ε ι β
  | discard {α : Type} (c : Combination ε ι α) : Combination ε ι Unit
  | pair {α β : Type} (c : Combination ε ι α) (d : Combination ε ι β) : Combination ε ι (α × β)
  | preceded {α : Type} (c : Combination ε ι Unit) (d : Combination ε ι α) : Combination ε ι α
  | delimited {α : Type} (left : Combination ε ι Unit) (c : Combination ε ι α)
      (right : Combination ε ι Unit) : Combination ε ι α
  | choice {α : Type} {n : Nat} (cs : Fin n → Combination ε ι α) : Combination ε ι α
  | optional {α : Type} (c : Combination ε ι α) : Combination ε ι (Option α)
  | many {α : Type} (c : Combination ε ι α) : Combination ε ι (List α)
  | many1 {α : Type} (c : Combination ε ι α) : Combination ε ι (List α)
  | withContext {α : Type} (c : Combination ε ι α) (name : String) : Combination ε ι α

/-! ## Repetition within a limit -/

namespace Abortable

/-- Rounds as long as they count. When there are more than the limit, this is an abort. -/
def rounds (counts : Nat → Nat → Bool) (p : Abortable ε ι α) (input : List ι) :
    Nat → Nat → Option (Nat × List α) := fun limit pos => do
  match ← (p input pos).run with
  | .ok (next, a) =>
    if counts pos next then
      match limit with
      | 0 => none
      | limit + 1 =>
        let (stop, as) ← rounds counts p input limit next
        return (stop, a :: as)
    else return (pos, [])
  | .error _ => return (pos, [])

def manyWithin (limit : Nat) (p : Abortable ε ι α) : Abortable ε ι (List α) := fun input pos =>
  ExceptT.lift (rounds (fun pos next => pos < next) p input limit pos)

def many1Within (limit : Nat) (p : Abortable ε ι α) : Abortable ε ι (List α) := fun input pos => do
  let (next, a) ← p input pos
  let (stop, as) ← ExceptT.lift (rounds (fun pos next => next ≠ pos) p input limit next)
  return (stop, a :: as)

end Abortable

/-! ## What combinations stand for -/

namespace Combination

variable [ToString ι] [DecidableEq ι]

def parser : {α : Type} → Combination ε ι α → Parser ε ι α
  | _, rule p => p
  | _, equal item => .equal item
  | _, satisfy expected f => .satisfy expected f
  | _, map c f => c.parser.map f
  | _, discard c => .discard c.parser
  | _, pair c d => .pair c.parser d.parser
  | _, preceded c d => .preceded c.parser d.parser
  | _, delimited left c right => .delimited left.parser c.parser right.parser
  | _, choice cs => .choice (List.ofFn fun i => (cs i).parser)
  | _, optional c => .optional c.parser
  | _, many c => .many c.parser
  | _, many1 c => .many1 c.parser
  | _, withContext c name => .withContext c.parser name

def within (limit : Nat) : {α : Type} → Combination ε ι α → Abortable ε ι α
  | _, rule p => .ofParser p
  | _, equal item => .ofParser (.equal item)
  | _, satisfy expected f => .ofParser (.satisfy expected f)
  | _, map c f => (c.within limit).map f
  | _, discard c => (c.within limit).map fun _ => ()
  | _, pair c d => .pair (c.within limit) (d.within limit)
  | _, preceded c d => .preceded (c.within limit) (d.within limit)
  | _, delimited left c right =>
    .delimited (left.within limit) (c.within limit) (right.within limit)
  | _, choice cs => .choice (List.ofFn fun i => (cs i).within limit)
  | _, optional c => .optional (c.within limit)
  | _, many c => .manyWithin limit (c.within limit)
  | _, many1 c => .many1Within limit (c.within limit)
  | _, withContext c name => .withContext (c.within limit) name

omit [ToString ι] [DecidableEq ι] in
/-- The functions in the combination are all `P`. -/
def Leaves (P : ∀ {α : Type}, Parser ε ι α → Prop) : {α : Type} → Combination ε ι α → Prop
  | _, rule p => P p
  | _, equal _ => True
  | _, satisfy _ _ => True
  | _, map c _ => c.Leaves P
  | _, discard c => c.Leaves P
  | _, pair c d => c.Leaves P ∧ d.Leaves P
  | _, preceded c d => c.Leaves P ∧ d.Leaves P
  | _, delimited left c right => left.Leaves P ∧ c.Leaves P ∧ right.Leaves P
  | _, choice cs => ∀ i, (cs i).Leaves P
  | _, optional c => c.Leaves P
  | _, many c => c.Leaves P
  | _, many1 c => c.Leaves P
  | _, withContext c _ => c.Leaves P

end Combination

/-! ## Parsers that stay in bounds -/

def InBounds (p : Parser ε ι α) : Prop :=
  ∀ input pos, Within pos (max pos input.length) (p input pos)

theorem Within.mono {first first' last last' : Nat} {r : Except (ParseError ε) (Nat × α)}
    (h : Within first last r) (hfirst : first' ≤ first) (hlast : last ≤ last') :
    Within first' last' r := by
  cases r with
  | ok result => exact ⟨Nat.le_trans hfirst h.1, Nat.le_trans h.2 hlast⟩
  | error e => exact ⟨Nat.le_trans hfirst h.1, Nat.le_trans h.2 hlast⟩

/-- Parsers that stay in bounds are those confined by the end. -/
theorem inBounds_iff_confined {p : Parser ε ι α} : InBounds p ↔ Confined (· = none) p := by
  constructor
  · intro hp input pos last hpos hlast
    rw [List.getElem?_eq_none_iff] at hlast
    exact (hp input pos).mono (Nat.le_refl pos) (Nat.max_le.2 ⟨hpos, hlast⟩)
  · intro hp input pos
    exact hp input pos _ (Nat.le_max_left _ _) (List.getElem?_eq_none (Nat.le_max_right _ _))

section InBounds

variable {p : Parser ε ι α}

theorem InBounds.forwardFrom (hp : InBounds p) (input : List ι) :
    ForwardFrom 0 input.length p input := by
  intro pos next a _ hround
  have hwithin := hp input pos
  rw [hround] at hwithin
  exact hwithin

theorem InBounds.many (hp : InBounds p) : InBounds (Parser.many p) :=
  inBounds_iff_confined.2 (inBounds_iff_confined.1 hp).many

theorem InBounds.many1 (hp : InBounds p) : InBounds (Parser.many1 p) :=
  inBounds_iff_confined.2 (inBounds_iff_confined.1 hp).many1

/-- Every round of a repetition takes an item. -/
theorem InBounds.length_le (hp : InBounds p) {input : List ι} {pos stop : Nat}
    {rounds : List (Nat × α)} (h : Chain p input pos rounds stop) :
    rounds.length ≤ input.length - pos :=
  h.length_le (hp.forwardFrom input) (Nat.zero_le pos)

end InBounds

namespace Combination

variable [ToString ι] [DecidableEq ι]

theorem inBounds_of_leaves {c : Combination ε ι α} (h : c.Leaves InBounds) : InBounds c.parser := by
  rw [inBounds_iff_confined]
  have hitem : ∀ {α : Type} {f : ι → Option α} (item : Option ι),
      item = none → item.bind f = none := by
    rintro _ _ _ rfl
    rfl
  induction c with
  | rule p => exact inBounds_iff_confined.1 h
  | equal item => exact Confined.satisfy _ hitem
  | satisfy expected f => exact Confined.satisfy _ hitem
  | map c f ih => exact (ih h).map f
  | discard c ih => exact (ih h).discard
  | pair c d ihc ihd => exact (ihc h.1).pair (ihd h.2)
  | preceded c d ihc ihd => exact (ihc h.1).preceded (ihd h.2)
  | delimited left c right ihl ihc ihr => exact (ihl h.1).delimited (ihc h.2.1) (ihr h.2.2)
  | choice cs ih =>
    refine Confined.choice fun p hp => ?_
    obtain ⟨i, rfl⟩ := List.mem_ofFn.1 hp
    exact ih i (h i)
  | optional c ih => exact (ih h).optional
  | many c ih => exact (ih h).many
  | many1 c ih => exact (ih h).many1
  | withContext c name ih => exact (ih h).withContext name

end Combination

/-! ## Repetition ends -/

section Rounds

variable {p : Parser ε ι α} {g : Abortable ε ι α} {counts : Nat → Nat → Bool}
variable {input : List ι} {pos stop : Nat}

/-- Rounds that have a limit follow the chain to its end, if it is no longer. -/
theorem Chain.rounds_eq {rounds : List (Nat × α)} {limit : Nat} (hcounts : CountsForward counts)
    (h : Chain p input pos rounds stop) (hrests : Rests p input stop)
    (hlimit : rounds.length ≤ limit)
    (hg : ∀ later, pos ≤ later → g input later = .mk (some (p input later))) :
    Abortable.rounds counts g input limit pos = some (stop, rounds.map (·.2)) := by
  induction h generalizing limit with
  | nil pos =>
    unfold Abortable.rounds
    rw [hg pos (Nat.le_refl pos)]
    cases hround : p input pos with
    | error e => rfl
    | ok result =>
      obtain ⟨next, a⟩ := result
      obtain rfl := hrests next a hround
      have hstops : counts next next = false := by
        rw [← Bool.not_eq_true, hcounts next next (Nat.le_refl _)]
        exact Nat.lt_irrefl next
      simp [hstops]
  | @cons pos next stop a rounds hround hnext hrest ih =>
    cases limit with
    | zero => exact absurd hlimit (Nat.not_succ_le_zero _)
    | succ limit =>
      have hgoes : counts pos next = true := (hcounts pos next (Nat.le_of_lt hnext)).2 hnext
      have hrounds := ih hrests (Nat.le_of_succ_le_succ hlimit) fun later hlater =>
        hg later (by omega)
      unfold Abortable.rounds
      rw [hg pos (Nat.le_refl pos)]
      simp [hround, hgoes, hrounds]

/-- There are no more rounds than items ahead. -/
theorem InBounds.exists_chain (hp : InBounds p) (hcounts : CountsForward counts) {limit : Nat}
    (hlimit : input.length ≤ pos + limit) :
    ∃ rounds stop, Chain p input pos rounds stop ∧ Rests p input stop ∧
      rounds.length ≤ input.length - pos ∧
      collect counts p input limit pos = (stop, rounds.map (·.2)) := by
  obtain ⟨rounds, stop, hchain, hrests, heq⟩ :=
    chain_collect hcounts (hp.forwardFrom input) (Nat.zero_le pos) hlimit
  exact ⟨rounds, stop, hchain, hrests, hp.length_le hchain, heq⟩

theorem InBounds.exists_many_eq (hp : InBounds p) (input : List ι) (pos : Nat) :
    ∃ rounds stop, Chain p input pos rounds stop ∧ Rests p input stop ∧
      rounds.length ≤ input.length - pos ∧
      Parser.many p input pos = .ok (stop, rounds.map (·.2)) := by
  have hlast := length_le_lastPosition input
  have hlimit : input.length ≤ pos + (lastPosition input - pos) := by omega
  obtain ⟨rounds, stop, hchain, hrests, hlength, heq⟩ := hp.exists_chain countsForward_lt hlimit
  exact ⟨rounds, stop, hchain, hrests, hlength, congrArg Except.ok heq⟩

theorem InBounds.exists_many1_eq (hp : InBounds p) {next : Nat} {a : α}
    (hfirst : p input pos = .ok (next, a)) :
    ∃ rounds stop, Chain p input next rounds stop ∧ Rests p input stop ∧
      rounds.length ≤ input.length - next ∧
      Parser.many1 p input pos = .ok (stop, a :: rounds.map (·.2)) := by
  have hlast := length_le_lastPosition input
  have hlimit : input.length ≤ next + lastPosition input := by omega
  obtain ⟨rounds, stop, hchain, hrests, hlength, heq⟩ := hp.exists_chain countsForward_ne hlimit
  refine ⟨rounds, stop, hchain, hrests, hlength, ?_⟩
  unfold Parser.many1
  simp only [hfirst, heq]

theorem InBounds.rounds_eq (hp : InBounds p) (hcounts : CountsForward counts)
    (hg : ∀ later, pos ≤ later → g input later = .mk (some (p input later))) {limit bound : Nat}
    (hlimit : input.length ≤ pos + limit) (hbound : input.length ≤ pos + bound) :
    Abortable.rounds counts g input limit pos = some (collect counts p input bound pos) := by
  obtain ⟨rounds, stop, hchain, hrests, hlength, heq⟩ := hp.exists_chain hcounts hbound
  rw [hchain.rounds_eq hcounts hrests (by omega) hg, heq]

theorem InBounds.manyWithin_eq (hp : InBounds p) {limit : Nat}
    (hlimit : input.length ≤ pos + limit)
    (hg : ∀ later, pos ≤ later → g input later = .mk (some (p input later))) :
    Abortable.manyWithin limit g input pos = .mk (some (Parser.many p input pos)) := by
  have hlast := length_le_lastPosition input
  have hbound : input.length ≤ pos + (lastPosition input - pos) := by omega
  unfold Abortable.manyWithin
  rw [hp.rounds_eq countsForward_lt hg hlimit hbound]
  rfl

theorem InBounds.many1Within_eq (hp : InBounds p) {limit : Nat}
    (hlimit : input.length ≤ pos + limit)
    (hg : ∀ later, pos ≤ later → g input later = .mk (some (p input later))) :
    Abortable.many1Within limit g input pos = .mk (some (Parser.many1 p input pos)) := by
  have hwithin := hp input pos
  unfold Abortable.many1Within Parser.many1
  rw [hg pos (Nat.le_refl pos)]
  cases hres : p input pos with
  | error e => rfl
  | ok result =>
    obtain ⟨next, a⟩ := result
    rw [hres] at hwithin
    obtain ⟨hnext, -⟩ := hwithin
    have hlast := length_le_lastPosition input
    have hbound : input.length ≤ next + lastPosition input := by omega
    have hrounds := hp.rounds_eq countsForward_ne
      (fun later hlater => hg later (Nat.le_trans hnext hlater))
      (show input.length ≤ next + limit by omega) hbound
    show (ExceptT.lift (Abortable.rounds _ g input limit next) >>= _) = _
    rw [hrounds]
    rfl

end Rounds

/-! ## Combinations end -/

/-- `P` holds only where no more than `limit` items are left, and further on, too. -/
structure Limits (limit : Nat) (P : List ι → Prop) : Prop where
  length_le : ∀ rest, P rest → rest.length ≤ limit
  drop : ∀ rest n, P rest → P (rest.drop n)

section Safe

variable {aborts : Prop} {P Q : List ι → Prop} {limit : Nat}
variable {p : Parser ε ι α} {g : Abortable ε ι α}

theorem Safe.eq (h : Safe False P g p Q) {input : List ι} {pos : Nat} (hpos : P (input.drop pos)) :
    g input pos = .mk (some (p input pos)) :=
  ((h input pos hpos).resolve_left And.left).1

namespace Limits

variable (hP : Limits limit P)
include hP

theorem length_le_add {input : List ι} {pos : Nat} (hpos : P (input.drop pos)) :
    input.length ≤ pos + limit := by
  have hlength := hP.length_le _ hpos
  rw [List.length_drop] at hlength
  omega

theorem later {input : List ι} {pos later : Nat} (hpos : P (input.drop pos))
    (hlater : pos ≤ later) : P (input.drop later) := by
  have hrest := hP.drop _ (later - pos) hpos
  rwa [List.drop_drop, Nat.add_sub_cancel' hlater] at hrest

/-- What stays in bounds leaves an end of what was left. -/
theorem safe (hp : InBounds p)
    (hg : ∀ input pos, P (input.drop pos) → g input pos = .mk (some (p input pos))) :
    Safe aborts P g p P := by
  intro input pos hpos
  refine .inr ⟨hg input pos hpos, ?_⟩
  have hwithin := hp input pos
  cases hres : p input pos with
  | error e => trivial
  | ok result =>
    rw [hres] at hwithin
    exact hP.later hpos hwithin.1

theorem manyWithin (hp : InBounds p) (h : Safe False P g p P) :
    Safe False P (g.manyWithin limit) (Parser.many p) P :=
  hP.safe hp.many fun _ _ hpos =>
    hp.manyWithin_eq (hP.length_le_add hpos) fun _ hlater => h.eq (hP.later hpos hlater)

theorem many1Within (hp : InBounds p) (h : Safe False P g p P) :
    Safe False P (g.many1Within limit) (Parser.many1 p) P :=
  hP.safe hp.many1 fun _ _ hpos =>
    hp.many1Within_eq (hP.length_le_add hpos) fun _ hlater => h.eq (hP.later hpos hlater)

end Limits

end Safe

/-- No more than `n` items are left. -/
def AtMost (n : Nat) (rest : List ι) : Prop :=
  rest.length ≤ n

theorem limits_atMost (n : Nat) : Limits n (AtMost (ι := ι) n) where
  length_le _ hrest := hrest
  drop rest k hrest := by
    unfold AtMost at hrest ⊢
    rw [List.length_drop]
    omega

namespace Combination

variable [ToString ι] [DecidableEq ι]

theorem safe_within {c : Combination ε ι α} (h : c.Leaves InBounds) (limit : Nat) :
    Safe False (AtMost limit) (c.within limit) c.parser (AtMost limit) := by
  have hlimits := limits_atMost (ι := ι) limit
  have hleaf : ∀ {α : Type} {c : Combination ε ι α}, c.Leaves InBounds →
      Safe False (AtMost limit) (.ofParser c.parser) c.parser (AtMost limit) :=
    fun hc => hlimits.safe (inBounds_of_leaves hc) fun _ _ _ => rfl
  induction c with
  | rule p => exact hleaf h
  | equal item => exact hleaf h
  | satisfy expected f => exact hleaf h
  | map c f ih => exact (ih h).map f
  | discard c ih => exact (ih h).map _
  | pair c d ihc ihd => exact (ihc h.1).pair (ihd h.2)
  | preceded c d ihc ihd => exact (ihc h.1).preceded (ihd h.2)
  | delimited left c right ihl ihc ihr => exact (ihl h.1).delimited (ihc h.2.1) (ihr h.2.2)
  | choice cs ih =>
    refine Safe.choice (List.forall₂_iff_get.2 ⟨by simp, fun i hi hi' => ?_⟩)
    simp only [List.get_eq_getElem, List.getElem_ofFn]
    exact ih _ (h _)
  | optional c ih => exact (ih h).optional
  | many c ih => exact hlimits.manyWithin (inBounds_of_leaves h) (ih h)
  | many1 c ih => exact hlimits.many1Within (inBounds_of_leaves h) (ih h)
  | withContext c name ih => exact (ih h).withContext name

/-- No repetition goes on for more rounds than there are items ahead. -/
theorem within_eq {c : Combination ε ι α} (h : c.Leaves InBounds) {limit pos : Nat}
    {input : List ι} (hlimit : input.length ≤ pos + limit) :
    c.within limit input pos = .mk (some (c.parser input pos)) := by
  refine (safe_within h limit).eq ?_
  unfold AtMost
  rw [List.length_drop]
  omega

end Combination

end Stencil.Parser
