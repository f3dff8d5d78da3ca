import Mathlib.Data.List.Forall2
import Stencil.Proofs.Outcome
import Stencil.Proofs.Parser.Reading

/-!
# Parsers that may abort

An abortable parser answers as a parser does, or it aborts. To an error the next alternative of a
choice answers, or the end of a repetition; nothing answers to an abort, and what contains a parser
that aborts has aborted. So a part that must not be reached is one that aborts.

`Safe aborts P g p Q`: where `P` holds of what is left of an input, `g` answers what the parser `p`
does, and if that has read something, `Q` holds of what is left then. Only if `aborts` holds, `g`
may abort instead. The combinators keep this, a repetition if its rounds keep `P`.
-/

namespace Stencil.Parser

variable {ε ι α β : Type}

/-- A parser that either answers or aborts, which is `none`. -/
abbrev Abortable (ε ι α : Type) := List ι → Nat → ExceptT (ParseError ε) Option (Nat × α)

namespace Abortable

def ofParser (p : Parser ε ι α) : Abortable ε ι α := fun input pos =>
  ExceptT.mk (some (p input pos))

def abort : Abortable ε ι α := fun _ _ =>
  ExceptT.mk none

/-! ## Combinators -/

def map (p : Abortable ε ι α) (f : α → β) : Abortable ε ι β := fun input pos => do
  let (stop, a) ← p input pos
  return (stop, f a)

def pair (p : Abortable ε ι α) (q : Abortable ε ι β) : Abortable ε ι (α × β) :=
  fun input pos => do
    let (mid, a) ← p input pos
    let (stop, b) ← q input mid
    return (stop, a, b)

def preceded (p : Abortable ε ι Unit) (q : Abortable ε ι α) : Abortable ε ι α :=
  (pair p q).map (·.2)

def delimited (left : Abortable ε ι Unit) (p : Abortable ε ι α) (right : Abortable ε ι Unit) :
    Abortable ε ι α :=
  (pair left (pair p right)).map (·.2.1)

def choiceFrom (best : Option (ParseError ε)) : List (Abortable ε ι α) → Abortable ε ι α
  | [], _, pos => throw (best.getD ⟨.noAlternative, pos, none⟩)
  | p :: ps, input, pos =>
    tryCatch (p input pos) fun e => choiceFrom (some (ParseError.further best e)) ps input pos

def choice (ps : List (Abortable ε ι α)) : Abortable ε ι α :=
  choiceFrom none ps

def optional (p : Abortable ε ι α) : Abortable ε ι (Option α) := fun input pos =>
  tryCatch (p.map some input pos) fun _ => return (pos, none)

def collect (counts : Nat → Nat → Bool) (p : Abortable ε ι α) (input : List ι) :
    Nat → Nat → Option (Nat × List α)
  | 0, pos => some (pos, [])
  | limit + 1, pos => do
    match ← (p input pos).run with
    | .ok (next, a) =>
      if counts pos next then
        let (stop, as) ← collect counts p input limit next
        return (stop, a :: as)
      else return (pos, [])
    | .error _ => return (pos, [])

def many (p : Abortable ε ι α) : Abortable ε ι (List α) := fun input pos =>
  ExceptT.lift (collect (fun pos next => pos < next) p input (lastPosition input - pos) pos)

def many1 (p : Abortable ε ι α) : Abortable ε ι (List α) := fun input pos => do
  let (next, a) ← p input pos
  let (stop, as) ← ExceptT.lift
    (collect (fun pos next => next ≠ pos) p input (lastPosition input) next)
  return (stop, a :: as)

def withContext (p : Abortable ε ι α) (name : String) : Abortable ε ι α := fun input pos =>
  tryCatch (p input pos) fun e => throw (e.inRule name)

end Abortable

/-! ## Answers -/

/-- If something has been read, `Q` holds of what is left of the input. -/
def Leaves (Q : List ι → Prop) (input : List ι) : Except (ParseError ε) (Nat × α) → Prop
  | .ok (stop, _) => Q (input.drop stop)
  | .error _ => True

/-- `x` is the answer `y`, or it is an abort, if there may be one. -/
def Answers (aborts : Prop) (Q : List ι → Prop) (input : List ι)
    (x : ExceptT (ParseError ε) Option (Nat × α)) (y : Except (ParseError ε) (Nat × α)) : Prop :=
  aborts ∧ x = ExceptT.mk none ∨ x = ExceptT.mk (some y) ∧ Leaves Q input y

section Answers

variable {aborts : Prop} {Q R : List ι → Prop} {input : List ι}

theorem Answers.ok {stop : Nat} {a : α} (h : Q (input.drop stop)) :
    Answers (ε := ε) aborts Q input (pure (stop, a)) (.ok (stop, a)) :=
  .inr ⟨rfl, h⟩

theorem Answers.error (e : ParseError ε) :
    Answers (α := α) aborts Q input (throw e) (.error e) :=
  .inr ⟨rfl, trivial⟩

theorem Answers.mono {x : ExceptT (ParseError ε) Option (Nat × α)}
    {y : Except (ParseError ε) (Nat × α)} (h : Answers aborts Q input x y)
    (hQ : ∀ rest, Q rest → R rest) : Answers aborts R input x y := by
  refine h.imp_right fun h => ⟨h.1, ?_⟩
  cases y with
  | ok result => exact hQ _ h.2
  | error e => trivial

theorem Answers.bind {x : ExceptT (ParseError ε) Option (Nat × α)}
    {y : Except (ParseError ε) (Nat × α)}
    {f : Nat × α → ExceptT (ParseError ε) Option (Nat × β)}
    {g : Nat × α → Except (ParseError ε) (Nat × β)} (h : Answers aborts Q input x y)
    (hf : ∀ stop a, Q (input.drop stop) → Answers aborts R input (f (stop, a)) (g (stop, a))) :
    Answers aborts R input (x >>= f) (y >>= g) := by
  obtain ⟨haborts, rfl⟩ | ⟨rfl, hleaves⟩ := h
  · exact .inl ⟨haborts, rfl⟩
  · cases y with
    | ok result => exact hf result.1 result.2 hleaves
    | error e => exact .error e

theorem Answers.tryCatch {x : ExceptT (ParseError ε) Option (Nat × α)}
    {y : Except (ParseError ε) (Nat × α)}
    {f : ParseError ε → ExceptT (ParseError ε) Option (Nat × α)}
    {g : ParseError ε → Except (ParseError ε) (Nat × α)} (h : Answers aborts Q input x y)
    (hf : ∀ e, Answers aborts Q input (f e) (g e)) :
    Answers aborts Q input (tryCatch x f) (tryCatch y g) := by
  obtain ⟨haborts, rfl⟩ | ⟨rfl, hleaves⟩ := h
  · exact .inl ⟨haborts, rfl⟩
  · cases y with
    | ok result => exact .inr ⟨rfl, hleaves⟩
    | error e => exact hf e

end Answers

/-! ## Sequences as computations -/

theorem map_eq_bind (p : Parser ε ι α) (f : α → β) (input : List ι) (pos : Nat) :
    p.map f input pos = (p input pos >>= fun r => .ok (r.1, f r.2)) := by
  unfold Parser.map
  cases p input pos <;> rfl

theorem pair_eq_bind (p : Parser ε ι α) (q : Parser ε ι β) (input : List ι) (pos : Nat) :
    pair p q input pos =
      (p input pos >>= fun r => q input r.1 >>= fun s => .ok (s.1, r.2, s.2)) := by
  unfold pair
  cases p input pos with
  | error e => rfl
  | ok r =>
    simp only [ok_bind]
    cases q input r.1 <;> rfl

/-! ## Safety -/

def Safe (aborts : Prop) (P : List ι → Prop) (g : Abortable ε ι α) (p : Parser ε ι α)
    (Q : List ι → Prop) : Prop :=
  ∀ input pos, P (input.drop pos) → Answers aborts Q input (g input pos) (p input pos)

section Safe

variable {aborts : Prop} {P Q R : List ι → Prop} {g : Abortable ε ι α} {p : Parser ε ι α}
variable {h : Abortable ε ι β} {q : Parser ε ι β}

theorem Safe.mono {P' Q' : List ι → Prop} (hp : Safe aborts P g p Q)
    (hP : ∀ rest, P' rest → P rest) (hQ : ∀ rest, Q rest → Q' rest) : Safe aborts P' g p Q' :=
  fun input pos hpos => (hp input pos (hP _ hpos)).mono hQ

/-- Nothing is left like that. -/
theorem Safe.of_false (hP : ∀ rest, ¬ P rest) : Safe aborts P g p Q :=
  fun _ _ hpos => absurd hpos (hP _)

theorem Safe.abort (haborts : aborts) : Safe aborts P Abortable.abort p Q :=
  fun _ _ _ => .inl ⟨haborts, rfl⟩

/-- A parser is safe if what it reads takes `P` to `Q`. -/
theorem Safe.ofParser {D : List ι → α → Prop} (hp : Obeys p D)
    (hD : ∀ read rest a, D read a → P (read ++ rest) → Q rest) :
    Safe aborts P (Abortable.ofParser p) p Q := by
  intro input pos hpos
  refine .inr ⟨rfl, ?_⟩
  cases hres : p input pos with
  | error e => trivial
  | ok result =>
    obtain ⟨stop, a⟩ := result
    obtain ⟨read, hdrop, -, hread⟩ := hp input pos stop a hres
    exact hD read _ a hread (hdrop ▸ hpos)

theorem Safe.map (f : α → β) (hp : Safe aborts P g p Q) : Safe aborts P (g.map f) (p.map f) Q := by
  intro input pos hpos
  rw [map_eq_bind]
  exact (hp input pos hpos).bind fun stop a hstop => .ok hstop

theorem Safe.pair (hp : Safe aborts P g p Q) (hq : Safe aborts Q h q R) :
    Safe aborts P (Abortable.pair g h) (Parser.pair p q) R := by
  intro input pos hpos
  rw [pair_eq_bind]
  exact (hp input pos hpos).bind fun mid a hmid =>
    (hq input mid hmid).bind fun stop b hstop => .ok hstop

/-- Where the second of two aborts and may do so, it does not matter what it is compared with. -/
theorem Safe.pair_of_abort {γ δ : Type} {h : Abortable ε ι β} {q : Parser ε ι γ} {f : α × β → δ}
    {f' : α × γ → δ} (hp : Safe aborts P g p Q)
    (hh : ∀ input pos, Q (input.drop pos) → aborts ∧ h input pos = ExceptT.mk none) :
    Safe aborts P ((Abortable.pair g h).map f) ((Parser.pair p q).map f') R := by
  intro input pos hpos
  unfold Abortable.map Abortable.pair Parser.map Parser.pair
  obtain ⟨haborts, hg⟩ | ⟨hg, hleaves⟩ := hp input pos hpos
  · rw [hg]
    exact .inl ⟨haborts, rfl⟩
  · rw [hg]
    cases hres : p input pos with
    | error e => exact .error e
    | ok result =>
      rw [hres] at hleaves
      obtain ⟨haborts, habort⟩ := hh input result.1 hleaves
      refine .inl ⟨haborts, ?_⟩
      show ((h input result.1 >>= _) >>= _) = _
      rw [habort]
      rfl

theorem Safe.withContext (name : String) (hp : Safe aborts P g p Q) :
    Safe aborts P (g.withContext name) (Parser.withContext p name) Q := by
  intro input pos hpos
  have hcontext : Parser.withContext p name input pos =
      tryCatch (p input pos) fun e => .error (e.inRule name) := by
    unfold Parser.withContext
    cases p input pos <;> rfl
  rw [hcontext]
  exact (hp input pos hpos).tryCatch fun e => .error (e.inRule name)

end Safe

section Around

variable {aborts : Prop} {P Q R S : List ι → Prop}
variable {left right : Abortable ε ι Unit} {p q : Parser ε ι Unit}
variable {g : Abortable ε ι α} {r : Parser ε ι α}

theorem Safe.preceded (hleft : Safe aborts P left p Q) (hr : Safe aborts Q g r R) :
    Safe aborts P (Abortable.preceded left g) (Parser.preceded p r) R :=
  (hleft.pair hr).map _

theorem Safe.delimited (hleft : Safe aborts P left p Q) (hr : Safe aborts Q g r R)
    (hright : Safe aborts R right q S) :
    Safe aborts P (Abortable.delimited left g right) (Parser.delimited p r q) S :=
  (hleft.pair (hr.pair hright)).map _

end Around

section Alternatives

variable {aborts : Prop} {P Q : List ι → Prop}

theorem Safe.choice {gs : List (Abortable ε ι α)} {ps : List (Parser ε ι α)}
    (h : List.Forall₂ (fun g p => Safe aborts P g p Q) gs ps) :
    Safe aborts P (Abortable.choice gs) (Parser.choice ps) Q := by
  intro input pos hpos
  suffices ∀ best : Option (ParseError ε), Answers aborts Q input
      (Abortable.choiceFrom best gs input pos) (Parser.choiceFrom best ps input pos) from this none
  induction h with
  | nil => exact fun best => .error _
  | @cons g p gs ps hp _ ih =>
    intro best
    have hchoice : Parser.choiceFrom best (p :: ps) input pos = tryCatch (p input pos) fun e =>
        Parser.choiceFrom (some (ParseError.further best e)) ps input pos := by
      rw [Parser.choiceFrom]
      cases p input pos <;> rfl
    rw [hchoice]
    exact (hp input pos hpos).tryCatch fun e => ih _

theorem Safe.optional {g : Abortable ε ι α} {p : Parser ε ι α} (hp : Safe aborts P g p P) :
    Safe aborts P g.optional (Parser.optional p) P := by
  intro input pos hpos
  have hoptional : Parser.optional p input pos =
      tryCatch (p.map some input pos) fun _ => .ok (pos, none) := by
    unfold Parser.optional Parser.map
    cases p input pos <;> rfl
  rw [hoptional]
  exact (hp.map some input pos hpos).tryCatch fun _ => .ok hpos

end Alternatives

section Repetition

variable {aborts : Prop} {P Q : List ι → Prop} {g : Abortable ε ι α} {p : Parser ε ι α}

/-- Rounds that keep `P` can be repeated. -/
theorem Safe.collect (hp : Safe aborts P g p P) {input : List ι} (counts : Nat → Nat → Bool)
    (limit : Nat) :
    ∀ {pos : Nat}, P (input.drop pos) →
      aborts ∧ Abortable.collect counts g input limit pos = none ∨
        Abortable.collect counts g input limit pos =
            some (Parser.collect counts p input limit pos) ∧
          P (input.drop (Parser.collect counts p input limit pos).1) := by
  induction limit with
  | zero => exact fun hpos => .inr ⟨rfl, hpos⟩
  | succ limit ih =>
    intro pos hpos
    unfold Abortable.collect Parser.collect
    obtain ⟨haborts, hg⟩ | ⟨hg, hleaves⟩ := hp input pos hpos
    · rw [hg]
      exact .inl ⟨haborts, rfl⟩
    · rw [hg]
      cases hres : p input pos with
      | error e => exact .inr ⟨rfl, hpos⟩
      | ok result =>
        rw [hres] at hleaves
        simp only [ExceptT.run_mk, Option.bind_eq_bind, Option.bind_some]
        by_cases hcounts : counts pos result.1
        · simp only [if_pos hcounts]
          obtain ⟨haborts, hcollect⟩ | ⟨hcollect, hstop⟩ := ih hleaves
          · rw [hcollect]
            exact .inl ⟨haborts, rfl⟩
          · rw [hcollect]
            exact .inr ⟨rfl, hstop⟩
        · simp only [if_neg hcounts]
          exact .inr ⟨rfl, hpos⟩

theorem Safe.answers_collect (hp : Safe aborts P g p P) {input : List ι} {pos : Nat}
    (counts : Nat → Nat → Bool) (limit : Nat) (hpos : P (input.drop pos)) :
    Answers (ε := ε) aborts P input (ExceptT.lift (Abortable.collect counts g input limit pos))
      (.ok (Parser.collect counts p input limit pos)) := by
  obtain ⟨haborts, hcollect⟩ | ⟨hcollect, hstop⟩ := hp.collect counts limit hpos
  · rw [hcollect]
    exact .inl ⟨haborts, rfl⟩
  · rw [hcollect]
    exact .inr ⟨rfl, hstop⟩

theorem Safe.many (hp : Safe aborts P g p P) : Safe aborts P (Abortable.many g) (Parser.many p) P :=
  fun _ _ hpos => hp.answers_collect _ _ hpos

theorem Safe.many1 (hp : Safe aborts P g p P) :
    Safe aborts P (Abortable.many1 g) (Parser.many1 p) P := by
  intro input pos hpos
  have hmany1 : Parser.many1 p input pos = (p input pos >>= fun r =>
      .ok (Parser.collect (fun pos next => next ≠ pos) p input (lastPosition input) r.1) >>=
        fun s => .ok (s.1, r.2 :: s.2)) := by
    unfold Parser.many1
    cases p input pos <;> rfl
  rw [hmany1]
  exact (hp input pos hpos).bind fun next a hnext =>
    (hp.answers_collect _ _ hnext).bind fun stop as hstop => .ok hstop

end Repetition

end Stencil.Parser
