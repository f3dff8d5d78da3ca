import Stencil.Parser.Combinators

/-!
# What parsers read

Three ways to speak of a parser, each kept by the combinators.

* `Reads p read a rest`: wherever `read ++ rest` is left of an input, `p` takes off `read` and
  gives `a`.
* `Refuses p rest`: wherever `rest` is left of an input, `p` fails.
* `Obeys p D`: whatever `p` takes off an input stands in the relation `D` to its value.

All three see an input only through what is left of it, so they hold at every position. Parsers
are greedy and never go back, so `Reads` has to say what follows.
-/

namespace Stencil.Parser

variable {ε ι α β γ : Type}

def Reads (p : Parser ε ι α) (read : List ι) (a : α) (rest : List ι) : Prop :=
  ∀ input pos, input.drop pos = read ++ rest → p input pos = .ok (pos + read.length, a)

def Refuses (p : Parser ε ι α) (rest : List ι) : Prop :=
  ∀ input pos, input.drop pos = rest → ∃ e, p input pos = .error e

def Obeys (p : Parser ε ι α) (D : List ι → α → Prop) : Prop :=
  ∀ input pos stop a, p input pos = .ok (stop, a) →
    ∃ read, input.drop pos = read ++ input.drop stop ∧ stop = pos + read.length ∧ D read a

/-! ## What is left of an input -/

theorem getElem?_eq_head?_drop (input : List ι) (pos : Nat) :
    input[pos]? = (input.drop pos).head? := by
  rw [List.head?_drop]

theorem drop_add_length {input read rest : List ι} {pos : Nat}
    (h : input.drop pos = read ++ rest) : input.drop (pos + read.length) = rest := by
  rw [← List.drop_drop, h, List.drop_left]

theorem length_sub_eq {input rest : List ι} {pos : Nat} (h : input.drop pos = rest) :
    input.length - pos = rest.length := by
  rw [← h, List.length_drop]

/-! ## Single items -/

section Satisfy

variable [ToString ι] {f : ι → Option α} {expected : String}

theorem Reads.satisfy {item : ι} {a : α} (h : f item = some a) (rest : List ι) :
    Reads (ε := ε) (satisfy expected f) [item] a rest := by
  intro input pos hdrop
  have hitem : input[pos]? = some item := by
    rw [getElem?_eq_head?_drop, hdrop]; rfl
  unfold Parser.satisfy
  rw [hitem, Option.bind_some, h]
  rfl

theorem Refuses.satisfy {rest : List ι} (h : ∀ item ∈ rest.head?, f item = none) :
    Refuses (ε := ε) (satisfy expected f) rest := by
  intro input pos hdrop
  refine ⟨unexpected expected input pos, ?_⟩
  unfold Parser.satisfy
  rw [getElem?_eq_head?_drop, hdrop]
  cases hrest : rest.head? with
  | none => rfl
  | some item => rw [Option.bind_some, h item hrest]

theorem Obeys.satisfy :
    Obeys (ε := ε) (satisfy expected f) fun read a => ∃ item, f item = some a ∧ read = [item] := by
  intro input pos stop a h
  unfold Parser.satisfy at h
  split at h
  · rename_i b hb
    obtain ⟨item, hitem, hf⟩ := Option.bind_eq_some_iff.1 hb
    simp only [Except.ok.injEq, Prod.mk.injEq] at h
    obtain ⟨rfl, rfl⟩ := h
    obtain ⟨hpos, rfl⟩ := List.getElem?_eq_some_iff.1 hitem
    exact ⟨[input[pos]], List.drop_eq_getElem_cons hpos, rfl, _, hf, rfl⟩
  · cases h

end Satisfy

section Equal

variable [ToString ι] [DecidableEq ι]

theorem Reads.equal (item : ι) (rest : List ι) :
    Reads (ε := ε) (equal item) [item] item rest := by
  unfold Parser.equal
  refine .satisfy ?_ rest
  exact if_pos rfl

theorem Refuses.equal {item : ι} {rest : List ι} (h : rest.head? ≠ some item) :
    Refuses (ε := ε) (equal item) rest := by
  unfold Parser.equal
  refine .satisfy fun found hfound => if_neg ?_
  rintro rfl
  exact h hfound

theorem Obeys.equal (item : ι) : Obeys (ε := ε) (equal item) fun read _ => read = [item] := by
  intro input pos stop a h
  unfold Parser.equal at h
  obtain ⟨read, hdrop, hstop, found, hfound, hread⟩ := Obeys.satisfy input pos stop a h
  rw [Option.ite_none_right_eq_some] at hfound
  exact ⟨read, hdrop, hstop, hfound.1 ▸ hread⟩

end Equal

/-! ## Sequences -/

section Sequence

variable {p : Parser ε ι α} {q : Parser ε ι β} {a : α} {b : β} {us vs rest : List ι}

theorem Obeys.mono {D E : List ι → α → Prop} (hp : Obeys p D) (h : ∀ read a, D read a → E read a) :
    Obeys p E := by
  intro input pos stop a hok
  obtain ⟨read, hdrop, hstop, hD⟩ := hp input pos stop a hok
  exact ⟨read, hdrop, hstop, h read a hD⟩

theorem Reads.map (f : α → β) (hp : Reads p us a rest) : Reads (p.map f) us (f a) rest := by
  intro input pos h
  unfold Parser.map
  rw [hp input pos h]

theorem Refuses.map (f : α → β) (hp : Refuses p rest) : Refuses (p.map f) rest := by
  intro input pos h
  obtain ⟨e, he⟩ := hp input pos h
  unfold Parser.map
  rw [he]
  exact ⟨e, rfl⟩

theorem Obeys.map {D : List ι → α → Prop} {E : List ι → β → Prop} {f : α → β} (hp : Obeys p D)
    (h : ∀ read a, D read a → E read (f a)) : Obeys (p.map f) E := by
  intro input pos stop b hok
  unfold Parser.map at hok
  cases hres : p input pos with
  | error e => rw [hres] at hok; cases hok
  | ok result =>
    rw [hres] at hok
    obtain ⟨mid, a⟩ := result
    simp only [Except.ok.injEq, Prod.mk.injEq] at hok
    obtain ⟨rfl, rfl⟩ := hok
    obtain ⟨read, hdrop, hstop, hD⟩ := hp input pos mid a hres
    exact ⟨read, hdrop, hstop, h read a hD⟩

theorem Reads.pair (hp : Reads p us a (vs ++ rest)) (hq : Reads q vs b rest) :
    Reads (pair p q) (us ++ vs) (a, b) rest := by
  intro input pos h
  rw [List.append_assoc] at h
  unfold Parser.pair
  rw [hp input pos h]
  simp only
  rw [hq input _ (drop_add_length h), List.length_append, Nat.add_assoc]

theorem Refuses.pair_left (q : Parser ε ι β) (hp : Refuses p rest) : Refuses (pair p q) rest := by
  intro input pos h
  obtain ⟨e, he⟩ := hp input pos h
  unfold Parser.pair
  rw [he]
  exact ⟨e, rfl⟩

theorem Refuses.pair_right (hp : Reads p us a rest) (hq : Refuses q rest) :
    Refuses (pair p q) (us ++ rest) := by
  intro input pos h
  obtain ⟨e, he⟩ := hq input _ (drop_add_length h)
  unfold Parser.pair
  rw [hp input pos h]
  simp only
  rw [he]
  exact ⟨e, rfl⟩

theorem Obeys.pair {D : List ι → α → Prop} {E : List ι → β → Prop} (hp : Obeys p D)
    (hq : Obeys q E) :
    Obeys (pair p q) fun read ab => ∃ us vs, read = us ++ vs ∧ D us ab.1 ∧ E vs ab.2 := by
  intro input pos stop ab hok
  unfold Parser.pair at hok
  cases hres : p input pos with
  | error e => rw [hres] at hok; cases hok
  | ok result =>
    obtain ⟨mid, a⟩ := result
    rw [hres] at hok
    simp only at hok
    cases hres' : q input mid with
    | error e => rw [hres'] at hok; cases hok
    | ok result' =>
      obtain ⟨stop', b⟩ := result'
      rw [hres'] at hok
      simp only [Except.ok.injEq, Prod.mk.injEq] at hok
      obtain ⟨rfl, rfl⟩ := hok
      obtain ⟨us, hus, hmid, hD⟩ := hp input pos mid a hres
      obtain ⟨vs, hvs, hstop, hE⟩ := hq input mid stop' b hres'
      refine ⟨us ++ vs, ?_, ?_, us, vs, rfl, hD, hE⟩
      · rw [hus, hvs, List.append_assoc]
      · rw [hstop, hmid, List.length_append, Nat.add_assoc]

end Sequence

section Around

variable {left right : Parser ε ι Unit} {p : Parser ε ι α} {a : α} {ls us rs rest : List ι}

theorem Reads.discard (hp : Reads p us a rest) : Reads (discard p) us () rest :=
  hp.map _

theorem Refuses.discard (hp : Refuses p rest) : Refuses (discard p) rest :=
  hp.map _

theorem Reads.preceded (hl : Reads left ls () (us ++ rest)) (hp : Reads p us a rest) :
    Reads (preceded left p) (ls ++ us) a rest :=
  (hl.pair hp).map _

theorem Refuses.preceded_left (p : Parser ε ι α) (hl : Refuses left rest) :
    Refuses (preceded left p) rest :=
  (hl.pair_left p).map _

theorem Refuses.preceded_right (hl : Reads left ls () rest) (hp : Refuses p rest) :
    Refuses (preceded left p) (ls ++ rest) :=
  (Refuses.pair_right hl hp).map _

theorem Obeys.preceded {L : List ι → Unit → Prop} {D E : List ι → α → Prop} (hl : Obeys left L)
    (hp : Obeys p D) (h : ∀ ls us a, L ls () → D us a → E (ls ++ us) a) :
    Obeys (preceded left p) E := by
  apply (hl.pair hp).map
  rintro read ab ⟨ls, us, rfl, hL, hD⟩
  exact h ls us ab.2 hL hD

theorem Reads.delimited (hl : Reads left ls () (us ++ (rs ++ rest)))
    (hp : Reads p us a (rs ++ rest)) (hr : Reads right rs () rest) :
    Reads (delimited left p right) (ls ++ (us ++ rs)) a rest := by
  rw [← List.append_assoc us] at hl
  exact (hl.pair (hp.pair hr)).map _

theorem Refuses.delimited_left (p : Parser ε ι α) (right : Parser ε ι Unit)
    (hl : Refuses left rest) : Refuses (delimited left p right) rest :=
  (hl.pair_left _).map _

theorem Obeys.delimited {L R : List ι → Unit → Prop} {D E : List ι → α → Prop}
    (hl : Obeys left L) (hp : Obeys p D) (hr : Obeys right R)
    (h : ∀ ls us rs a, L ls () → D us a → R rs () → E (ls ++ (us ++ rs)) a) :
    Obeys (delimited left p right) E := by
  apply (hl.pair (hp.pair hr)).map
  rintro read ab ⟨ls, vs, rfl, hL, us, rs, rfl, hD, hR⟩
  exact h ls us rs ab.2.1 hL hD hR

theorem Reads.withContext (name : String) (hp : Reads p us a rest) :
    Reads (withContext p name) us a rest := by
  intro input pos h
  unfold Parser.withContext
  rw [hp input pos h]

theorem Refuses.withContext (name : String) (hp : Refuses p rest) :
    Refuses (withContext p name) rest := by
  intro input pos h
  obtain ⟨e, he⟩ := hp input pos h
  unfold Parser.withContext
  rw [he]
  exact ⟨e.inRule name, rfl⟩

theorem Obeys.withContext {D : List ι → α → Prop} (name : String) (hp : Obeys p D) :
    Obeys (withContext p name) D := by
  intro input pos stop a hok
  unfold Parser.withContext at hok
  cases hres : p input pos with
  | error e => rw [hres] at hok; cases hok
  | ok result => rw [hres] at hok; exact hp input pos stop a (hres.trans hok)

theorem Reads.optional_some (hp : Reads p us a rest) : Reads (optional p) us (some a) rest := by
  intro input pos h
  unfold Parser.optional
  rw [hp input pos h]

theorem Reads.optional_none (hp : Refuses p rest) : Reads (optional p) [] none rest := by
  intro input pos h
  obtain ⟨e, he⟩ := hp input pos h
  unfold Parser.optional
  rw [he]
  rfl

theorem Obeys.optional {D : List ι → α → Prop} {E : List ι → Option α → Prop} (hp : Obeys p D)
    (hnone : E [] none) (hsome : ∀ read a, D read a → E read (some a)) : Obeys (optional p) E := by
  intro input pos stop a? hok
  unfold Parser.optional at hok
  cases hres : p input pos with
  | error e =>
    rw [hres] at hok
    simp only [Except.ok.injEq, Prod.mk.injEq] at hok
    obtain ⟨rfl, rfl⟩ := hok
    exact ⟨[], rfl, rfl, hnone⟩
  | ok result =>
    rw [hres] at hok
    obtain ⟨mid, a⟩ := result
    simp only [Except.ok.injEq, Prod.mk.injEq] at hok
    obtain ⟨rfl, rfl⟩ := hok
    obtain ⟨read, hdrop, hstop, hD⟩ := hp input pos mid a hres
    exact ⟨read, hdrop, hstop, hsome read a hD⟩

end Around

/-! ## Alternatives -/

section Choice

variable {p : Parser ε ι α} {ps : List (Parser ε ι α)} {read rest : List ι} {a : α}

/-- `ps` read as an alternative, whatever failed before. -/
def ReadsAmong (ps : List (Parser ε ι α)) (read : List ι) (a : α) (rest : List ι) : Prop :=
  ∀ best, Reads (choiceFrom best ps) read a rest

theorem ReadsAmong.here (hp : Reads p read a rest) (ps : List (Parser ε ι α)) :
    ReadsAmong (p :: ps) read a rest := by
  intro best input pos h
  unfold choiceFrom
  rw [hp input pos h]

theorem ReadsAmong.later (hp : Refuses p (read ++ rest)) (hps : ReadsAmong ps read a rest) :
    ReadsAmong (p :: ps) read a rest := by
  intro best input pos h
  obtain ⟨e, he⟩ := hp input pos h
  unfold choiceFrom
  rw [he]
  exact hps _ input pos h

theorem Reads.choice (h : ReadsAmong ps read a rest) : Reads (choice ps) read a rest :=
  h none

theorem Refuses.choice (h : ∀ p ∈ ps, Refuses p rest) : Refuses (choice ps) rest := by
  intro input pos hdrop
  suffices ∀ best, ∃ e, choiceFrom best ps input pos = .error e from this none
  induction ps with
  | nil => exact fun best => ⟨_, rfl⟩
  | cons p ps ih =>
    intro best
    obtain ⟨e, he⟩ := h p List.mem_cons_self input pos hdrop
    unfold choiceFrom
    rw [he]
    exact ih (fun q hq => h q (List.mem_cons_of_mem p hq)) _

theorem Obeys.choice {D : List ι → α → Prop} (h : ∀ p ∈ ps, Obeys p D) : Obeys (choice ps) D := by
  intro input pos stop a
  suffices ∀ best, choiceFrom best ps input pos = .ok (stop, a) →
      ∃ read, input.drop pos = read ++ input.drop stop ∧ stop = pos + read.length ∧ D read a from
    this none
  induction ps with
  | nil => intro best hok; cases hok
  | cons p ps ih =>
    intro best hok
    unfold choiceFrom at hok
    cases hres : p input pos with
    | ok result =>
      rw [hres] at hok
      exact h p List.mem_cons_self input pos stop a (hres.trans hok)
    | error e =>
      rw [hres] at hok
      exact ih (fun q hq => h q (List.mem_cons_of_mem p hq)) _ hok

end Choice

/-! ## Repetition -/

section Repetition

variable {p : Parser ε ι α} {us vs rest : List ι} {a : α} {as : List α}

/-- Rounds of `p`, as many as there can be, take off `read` and give `as`, if those that go forward
count. -/
def ReadsAll (p : Parser ε ι α) (read : List ι) (as : List α) (rest : List ι) : Prop :=
  ∀ counts : Nat → Nat → Bool, (∀ pos next, pos < next → counts pos next) →
    ∀ input pos limit, input.drop pos = read ++ rest → read.length + rest.length ≤ limit →
      collect counts p input limit pos = (pos + read.length, as)

theorem ReadsAll.nil (hp : Refuses p rest) : ReadsAll p [] [] rest := by
  intro counts _ input pos limit h _
  obtain ⟨e, he⟩ := hp input pos h
  cases limit with
  | zero => rfl
  | succ limit => rw [collect, he]; rfl

theorem ReadsAll.cons (hp : Reads p us a (vs ++ rest)) (hus : us ≠ [])
    (hps : ReadsAll p vs as rest) : ReadsAll p (us ++ vs) (a :: as) rest := by
  intro counts hcounts input pos limit h hlimit
  rw [List.append_assoc] at h
  have hpos : 0 < us.length := List.length_pos_iff.2 hus
  rw [List.length_append] at hlimit
  cases limit with
  | zero => omega
  | succ limit =>
    rw [collect, hp input pos h]
    simp only
    rw [if_pos (hcounts _ _ (by omega)),
      hps counts hcounts input _ limit (drop_add_length h) (by omega), List.length_append,
      Nat.add_assoc]

theorem ReadsAll.many (h : ReadsAll p us as rest) : Reads (many p) us as rest := by
  intro input pos hdrop
  unfold Parser.many
  have hlimit : us.length + rest.length = input.length - pos := by
    rw [length_sub_eq hdrop, List.length_append]
  have hlast := length_le_lastPosition input
  rw [h _ (fun _ _ => decide_eq_true) input pos _ hdrop (by omega)]

theorem ReadsAll.many1 (hp : Reads p us a (vs ++ rest)) (h : ReadsAll p vs as rest) :
    Reads (many1 p) (us ++ vs) (a :: as) rest := by
  intro input pos hdrop
  rw [List.append_assoc] at hdrop
  have hmid := drop_add_length hdrop
  have hlimit : vs.length + rest.length = input.length - (pos + us.length) := by
    rw [length_sub_eq hmid, List.length_append]
  have hlast := length_le_lastPosition input
  have hcounts : ∀ pos next : Nat, pos < next → decide (next ≠ pos) = true := fun _ _ hlt =>
    decide_eq_true (Nat.ne_of_gt hlt)
  unfold Parser.many1
  rw [hp input pos hdrop]
  simp only
  rw [h _ hcounts input _ _ hmid (by omega), List.length_append, Nat.add_assoc]

theorem Refuses.many1 (hp : Refuses p rest) : Refuses (many1 p) rest := by
  intro input pos h
  obtain ⟨e, he⟩ := hp input pos h
  unfold Parser.many1
  rw [he]
  exact ⟨e, rfl⟩

/-- Rounds keep `E`, when each of them keeps it. -/
theorem obeys_collect {D : List ι → α → Prop} {E : List ι → List α → Prop} (hp : Obeys p D)
    (hnil : E [] []) (hcons : ∀ us a vs as, D us a → E vs as → E (us ++ vs) (a :: as))
    (counts : Nat → Nat → Bool) (input : List ι) (limit pos : Nat) :
    ∃ read, input.drop pos = read ++ input.drop (collect counts p input limit pos).1 ∧
      (collect counts p input limit pos).1 = pos + read.length ∧
        E read (collect counts p input limit pos).2 := by
  induction limit generalizing pos with
  | zero => exact ⟨[], rfl, rfl, hnil⟩
  | succ limit ih =>
    rw [collect]
    cases hres : p input pos with
    | error e => exact ⟨[], rfl, rfl, hnil⟩
    | ok result =>
      obtain ⟨next, a⟩ := result
      simp only
      by_cases hnext : counts pos next
      · rw [if_pos hnext]
        obtain ⟨us, hus, hmid, hD⟩ := hp input pos next a hres
        obtain ⟨vs, hvs, hstop, hE⟩ := ih next
        refine ⟨us ++ vs, ?_, ?_, hcons us a vs _ hD hE⟩
        · rw [hus, List.append_assoc, ← hvs]
        · rw [hstop, hmid, List.length_append, Nat.add_assoc]
      · rw [if_neg hnext]
        exact ⟨[], rfl, rfl, hnil⟩

theorem Obeys.many {D : List ι → α → Prop} {E : List ι → List α → Prop} (hp : Obeys p D)
    (hnil : E [] []) (hcons : ∀ us a vs as, D us a → E vs as → E (us ++ vs) (a :: as)) :
    Obeys (many p) E := by
  intro input pos stop as hok
  unfold Parser.many at hok
  have hres := obeys_collect hp hnil hcons (fun pos next => pos < next) input
    (lastPosition input - pos) pos
  rw [Except.ok.inj hok] at hres
  exact hres

theorem Obeys.many1 {D : List ι → α → Prop} {E : List ι → List α → Prop} (hp : Obeys p D)
    (hnil : E [] []) (hcons : ∀ us a vs as, D us a → E vs as → E (us ++ vs) (a :: as)) :
    Obeys (many1 p) fun read as => E read as ∧ as ≠ [] := by
  intro input pos stop as hok
  unfold Parser.many1 at hok
  cases hres : p input pos with
  | error e => rw [hres] at hok; cases hok
  | ok result =>
    obtain ⟨mid, a⟩ := result
    rw [hres] at hok
    simp only [Except.ok.injEq, Prod.mk.injEq] at hok
    obtain ⟨rfl, rfl⟩ := hok
    obtain ⟨us, hus, hmid, hD⟩ := hp input pos mid a hres
    obtain ⟨vs, hvs, hstop, hE⟩ := obeys_collect hp hnil hcons (fun pos next => next ≠ pos) input
      (lastPosition input) mid
    refine ⟨us ++ vs, ?_, ?_, hcons us a vs _ hD hE, List.cons_ne_nil a _⟩
    · rw [hus, List.append_assoc, ← hvs]
    · rw [hstop, hmid, List.length_append, Nat.add_assoc]

end Repetition

end Stencil.Parser
