import Stencil.Parser.Combinators

/-!
# What a choice answers

`choice_selects`: a choice answers as the first of its alternatives that succeeds. If all of them
fail, it reports the error that got furthest, of several that got as far the earliest one. So it
makes no difference whether alternatives are listed one by one or as a choice among them.

The best error so far is carried along in a choice, and two errors can be compared in any grouping
(`further_further`). That is what lets a choice be taken apart in the middle.
-/

namespace Stencil

variable {ε : Type}

namespace ParseError

theorem further_further (best : Option (ParseError ε)) (d e : ParseError ε) :
    further (some (further best d)) e = further best (further (some d) e) := by
  cases best with
  | none => rfl
  | some b =>
    simp only [further]
    by_cases hd : b.position < d.position <;> by_cases he : d.position < e.position <;>
      by_cases hb : b.position < e.position <;> simp only [hd, he, hb, if_true, if_false] <;> omega

end ParseError

namespace Parser

variable {ι α : Type} {ps : List (Parser ε ι α)} {p : Parser ε ι α} {input : List ι} {pos : Nat}

/-! ## Which alternative is meant -/

/-- The first alternative that succeeds gives `result`. -/
def FirstSuccess (ps : List (Parser ε ι α)) (input : List ι) (pos : Nat) (result : Nat × α) :
    Prop :=
  ∃ before p after, ps = before ++ p :: after ∧ p input pos = .ok result ∧
    ∀ q ∈ before, ∃ e, q input pos = .error e

/-- All alternatives fail, those before the one with the error `e` not as far on as it, and those
behind it no further. -/
def FurthestFailure (ps : List (Parser ε ι α)) (input : List ι) (pos : Nat) (e : ParseError ε) :
    Prop :=
  ∃ before p after, ps = before ++ p :: after ∧ p input pos = .error e ∧
    (∀ q ∈ before, ∃ d, q input pos = .error d ∧ d.position < e.position) ∧
    ∀ q ∈ after, ∃ d, q input pos = .error d ∧ d.position ≤ e.position

theorem firstSuccess_cons {result : Nat × α} :
    FirstSuccess (p :: ps) input pos result ↔
      p input pos = .ok result ∨
        (∃ e, p input pos = .error e) ∧ FirstSuccess ps input pos result := by
  constructor
  · rintro ⟨before, q, after, heq, hq, hbefore⟩
    cases before with
    | nil =>
      obtain ⟨rfl, rfl⟩ := List.cons.inj heq
      exact .inl hq
    | cons p' before =>
      obtain ⟨rfl, rfl⟩ := List.cons.inj heq
      obtain ⟨hfails, hbefore⟩ := List.forall_mem_cons.1 hbefore
      exact .inr ⟨hfails, before, q, after, rfl, hq, hbefore⟩
  · rintro (hp | ⟨hfails, before, q, after, rfl, hq, hbefore⟩)
    · exact ⟨[], p, ps, rfl, hp, by simp⟩
    · exact ⟨p :: before, q, after, rfl, hq, List.forall_mem_cons.2 ⟨hfails, hbefore⟩⟩

theorem furthestFailure_cons {e : ParseError ε} :
    FurthestFailure (p :: ps) input pos e ↔
      (p input pos = .error e ∧ ∀ q ∈ ps, ∃ d, q input pos = .error d ∧ d.position ≤ e.position) ∨
        (∃ d, p input pos = .error d ∧ d.position < e.position) ∧
          FurthestFailure ps input pos e := by
  constructor
  · rintro ⟨before, q, after, heq, hq, hbefore, hafter⟩
    cases before with
    | nil =>
      obtain ⟨rfl, rfl⟩ := List.cons.inj heq
      exact .inl ⟨hq, hafter⟩
    | cons p' before =>
      obtain ⟨rfl, rfl⟩ := List.cons.inj heq
      obtain ⟨hfails, hbefore⟩ := List.forall_mem_cons.1 hbefore
      exact .inr ⟨hfails, before, q, after, rfl, hq, hbefore, hafter⟩
  · rintro (⟨hp, hps⟩ | ⟨hfails, before, q, after, rfl, hq, hbefore, hafter⟩)
    · exact ⟨[], p, ps, rfl, hp, by simp, hps⟩
    · exact ⟨p :: before, q, after, rfl, hq, List.forall_mem_cons.2 ⟨hfails, hbefore⟩, hafter⟩

theorem not_firstSuccess_nil {result : Nat × α} :
    ¬ FirstSuccess ([] : List (Parser ε ι α)) input pos result := by
  rintro ⟨before, p, after, heq, -⟩
  simp at heq

theorem not_furthestFailure_nil {e : ParseError ε} :
    ¬ FurthestFailure ([] : List (Parser ε ι α)) input pos e := by
  rintro ⟨before, p, after, heq, -⟩
  simp at heq

/-! ## The best error so far -/

theorem choiceFrom_cons_error {best : Option (ParseError ε)} {e : ParseError ε}
    (h : p input pos = .error e) :
    choiceFrom best (p :: ps) input pos =
      choiceFrom (some (ParseError.further best e)) ps input pos := by
  rw [choiceFrom, h]

theorem choiceFrom_cons_ok {best : Option (ParseError ε)} {result : Nat × α}
    (h : p input pos = .ok result) : choiceFrom best (p :: ps) input pos = .ok result := by
  rw [choiceFrom, h]

/-- An earlier error makes no difference to a success. -/
theorem choiceFrom_eq_ok_iff (best : Option (ParseError ε)) {result : Nat × α} :
    choiceFrom best ps input pos = .ok result ↔ FirstSuccess ps input pos result := by
  induction ps generalizing best with
  | nil => exact ⟨nofun, fun h => absurd h not_firstSuccess_nil⟩
  | cons p ps ih =>
    rw [firstSuccess_cons]
    cases hp : p input pos with
    | ok answer => simp [choiceFrom_cons_ok hp]
    | error e => simp [choiceFrom_cons_error hp, ih]

/-- An earlier error is reported unless an alternative fails further on. -/
theorem choiceFrom_some_eq_error_iff {b e : ParseError ε} :
    choiceFrom (some b) ps input pos = .error e ↔
      (e = b ∧ ∀ q ∈ ps, ∃ d, q input pos = .error d ∧ d.position ≤ b.position) ∨
        b.position < e.position ∧ FurthestFailure ps input pos e := by
  induction ps generalizing b with
  | nil =>
    have herror : choiceFrom (some b) ([] : List (Parser ε ι α)) input pos = .error b := rfl
    simp [herror, not_furthestFailure_nil, eq_comm]
  | cons p ps ih =>
    rw [furthestFailure_cons, List.forall_mem_cons]
    cases hp : p input pos with
    | ok answer => simp [choiceFrom_cons_ok hp]
    | error d =>
      simp only [choiceFrom_cons_error hp, ih, ParseError.further, Except.error.injEq,
        exists_eq_left']
      by_cases hd : b.position < d.position
      · -- `d` takes the place of `b`
        rw [if_pos hd]
        constructor
        · rintro (⟨rfl, hps⟩ | ⟨hlt, hps⟩)
          · exact .inr ⟨hd, .inl ⟨rfl, hps⟩⟩
          · exact .inr ⟨Nat.lt_trans hd hlt, .inr ⟨hlt, hps⟩⟩
        · rintro (⟨-, hle, -⟩ | ⟨-, ⟨rfl, hps⟩ | ⟨hlt, hps⟩⟩)
          · exact absurd hd (Nat.not_lt_of_le hle)
          · exact .inl ⟨rfl, hps⟩
          · exact .inr ⟨hlt, hps⟩
      · rw [if_neg hd]
        constructor
        · rintro (⟨rfl, hps⟩ | ⟨hlt, hps⟩)
          · exact .inl ⟨rfl, Nat.le_of_not_lt hd, hps⟩
          · exact .inr ⟨hlt, .inr ⟨Nat.lt_of_le_of_lt (Nat.le_of_not_lt hd) hlt, hps⟩⟩
        · rintro (⟨rfl, -, hps⟩ | ⟨hlt, ⟨rfl, -⟩ | ⟨-, hps⟩⟩)
          · exact .inl ⟨rfl, hps⟩
          · exact absurd hlt hd
          · exact .inr ⟨hlt, hps⟩

theorem choice_eq_error_iff {e : ParseError ε} :
    choice ps input pos = .error e ↔
      FurthestFailure ps input pos e ∨ ps = [] ∧ e = ⟨.noAlternative, pos, none⟩ := by
  cases ps with
  | nil =>
    have herror : choice ([] : List (Parser ε ι α)) input pos =
        .error ⟨.noAlternative, pos, none⟩ := rfl
    simp [herror, not_furthestFailure_nil, eq_comm]
  | cons p ps =>
    rw [furthestFailure_cons]
    unfold choice
    cases hp : p input pos with
    | ok answer => simp [choiceFrom_cons_ok hp]
    | error d =>
      simp only [choiceFrom_cons_error hp, ParseError.further, choiceFrom_some_eq_error_iff,
        Except.error.injEq, exists_eq_left']
      constructor
      · rintro (⟨rfl, hps⟩ | hlater)
        · exact .inl (.inl ⟨rfl, hps⟩)
        · exact .inl (.inr hlater)
      · rintro ((⟨rfl, hps⟩ | hlater) | ⟨hnil, -⟩)
        · exact .inl ⟨rfl, hps⟩
        · exact .inr hlater
        · cases hnil

/-! ## Choices among alternatives -/

/-- The error of a choice is compared with an earlier one as those of its alternatives are. -/
theorem choiceFrom_further (best : Option (ParseError ε)) (e : ParseError ε) :
    choiceFrom (some (ParseError.further best e)) ps input pos =
      match choiceFrom (some e) ps input pos with
      | .ok result => .ok result
      | .error d => .error (ParseError.further best d) := by
  induction ps generalizing e with
  | nil => rfl
  | cons p ps ih =>
    cases hp : p input pos with
    | ok result => rw [choiceFrom_cons_ok hp, choiceFrom_cons_ok hp]
    | error d =>
      rw [choiceFrom_cons_error hp, choiceFrom_cons_error hp, ParseError.further_further, ih]

theorem choiceFrom_eq_choice (best : Option (ParseError ε)) (hps : ps ≠ []) :
    choiceFrom best ps input pos =
      match choice ps input pos with
      | .ok result => .ok result
      | .error e => .error (ParseError.further best e) := by
  cases ps with
  | nil => exact absurd rfl hps
  | cons p ps =>
    unfold choice
    cases hp : p input pos with
    | ok result => rw [choiceFrom_cons_ok hp, choiceFrom_cons_ok hp]
    | error e =>
      rw [choiceFrom_cons_error hp, choiceFrom_cons_error hp, choiceFrom_further]
      rfl

/-- Alternatives go on with the error that those before them report. -/
theorem choiceFrom_append (best : Option (ParseError ε)) (hps : ps ≠ [])
    (qs : List (Parser ε ι α)) :
    choiceFrom best (ps ++ qs) input pos =
      match choiceFrom best ps input pos with
      | .ok result => .ok result
      | .error e => choiceFrom (some e) qs input pos := by
  induction ps generalizing best with
  | nil => exact absurd rfl hps
  | cons p ps ih =>
    rw [List.cons_append]
    cases hp : p input pos with
    | ok result => rw [choiceFrom_cons_ok hp, choiceFrom_cons_ok hp]
    | error e =>
      rw [choiceFrom_cons_error hp, choiceFrom_cons_error hp]
      cases ps with
      | nil => rfl
      | cons q ps => exact ih _ (List.cons_ne_nil q ps)

/-- The alternatives of a choice may stand in its place. -/
theorem choiceFrom_choice_cons (best : Option (ParseError ε)) (hps : ps ≠ [])
    (qs : List (Parser ε ι α)) :
    choiceFrom best (choice ps :: qs) input pos = choiceFrom best (ps ++ qs) input pos := by
  rw [choiceFrom_append best hps, choiceFrom_eq_choice best hps, choiceFrom]
  cases choice ps input pos <;> rfl

theorem choice_flatten (zs : List (Parser ε ι α)) (hps : ps ≠ []) (ys : List (Parser ε ι α)) :
    choice (zs ++ [choice ps] ++ ys) = choice (zs ++ ps ++ ys) := by
  funext input pos
  rw [List.append_assoc, List.append_assoc, List.singleton_append]
  show choiceFrom none (zs ++ choice ps :: ys) input pos =
    choiceFrom none (zs ++ (ps ++ ys)) input pos
  generalize none = best
  cases zs with
  | nil => exact choiceFrom_choice_cons best hps ys
  | cons z zs =>
    have hzs : z :: zs ≠ [] := List.cons_ne_nil z zs
    rw [choiceFrom_append best hzs, choiceFrom_append best hzs]
    cases choiceFrom best (z :: zs) input pos with
    | ok result => rfl
    | error e => exact choiceFrom_choice_cons (some e) hps ys

/-- **First success, furthest failure.** A choice gives what the first of its alternatives that
succeeds gives. It fails if all of them do, with the earliest of the errors that got furthest, or if
there are none. Alternatives that are not none may be put into a choice of their own. -/
theorem choice_selects :
    (∀ (ps : List (Parser ε ι α)) input pos result,
      choice ps input pos = .ok result ↔ FirstSuccess ps input pos result) ∧
    (∀ (ps : List (Parser ε ι α)) input pos e,
      choice ps input pos = .error e ↔
        FurthestFailure ps input pos e ∨ ps = [] ∧ e = ⟨.noAlternative, pos, none⟩) ∧
    ∀ zs xs ys : List (Parser ε ι α), xs ≠ [] →
      choice (zs ++ [choice xs] ++ ys) = choice (zs ++ xs ++ ys) :=
  ⟨fun _ _ _ _ => choiceFrom_eq_ok_iff none, fun _ _ _ _ => choice_eq_error_iff,
    fun zs _ ys hxs => choice_flatten zs hxs ys⟩

/-- Pairs that begin with 1. -/
def pairsFromOne : List (Parser Unit Nat (Nat × Nat)) :=
  [pair (equal 1) (equal 3), pair (equal 1) (equal 4)]

/-- Of three alternatives that fail, the last two get equally far. -/
theorem choice_selects_pairsFromOne :
    pairsFromOne ≠ [] ∧
      choice ([pair (equal 5) (equal 2)] ++ [choice pairsFromOne] ++ []) [1, 2] 0 =
        .error ⟨.unexpected "3" "2", 1, none⟩ := by
  have hpairs : pairsFromOne ≠ [] := List.cons_ne_nil _ _
  have hfurthest : FurthestFailure ([pair (equal 5) (equal 2)] ++ pairsFromOne ++ []) [1, 2] 0
      ⟨.unexpected "3" "2", 1, none⟩ := by
    refine ⟨[pair (equal 5) (equal 2)], pair (equal 1) (equal 3), [pair (equal 1) (equal 4)],
      rfl, rfl, ?_, ?_⟩
    · exact List.forall_mem_singleton.2 ⟨⟨.unexpected "5" "1", 0, none⟩, rfl, Nat.zero_lt_one⟩
    · exact List.forall_mem_singleton.2 ⟨⟨.unexpected "4" "2", 1, none⟩, rfl, Nat.le_refl 1⟩
  refine ⟨hpairs, ?_⟩
  rw [choice_selects.2.2 _ _ _ hpairs]
  exact (choice_selects.2.1 _ _ _ _).2 (.inl hfurthest)

end Parser

end Stencil
