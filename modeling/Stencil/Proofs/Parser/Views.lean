import Stencil.Parser.Combinators

/-!
# What parsers see of the items

`Sees f p`: of the items, `p` sees no more than what `f` tells of them, so that inputs that look
the same give the same answer, whether it is a value or an error. The combinators see what their
parsers see.
-/

namespace Stencil.Parser

variable {ε ι κ α β : Type} {f : ι → κ}

def Sees (f : ι → κ) (p : Parser ε ι α) : Prop :=
  ∀ input other, input.map f = other.map f → p input = p other

theorem getElem?_map_eq {input other : List ι} (h : input.map f = other.map f) (pos : Nat) :
    input[pos]?.map f = other[pos]?.map f := by
  rw [← List.getElem?_map, h, List.getElem?_map]

theorem length_eq_of_map_eq {input other : List ι} (h : input.map f = other.map f) :
    input.length = other.length := by
  rw [← List.length_map f, h, List.length_map]

/-- Items that look the same have to be named the same by errors, too. -/
theorem Sees.satisfy [ToString ι] (expected : String) {g : ι → Option α}
    (htext : ∀ item item', f item = f item' → toString item = toString item')
    (hvalue : ∀ item item', f item = f item' → g item = g item') :
    Sees f (satisfy expected g : Parser ε ι α) := by
  intro input other h
  funext pos
  have hitem := getElem?_map_eq h pos
  unfold Parser.satisfy unexpected
  cases hinput : input[pos]? with
  | none =>
    rw [hinput, Option.map_none, eq_comm, Option.map_eq_none_iff] at hitem
    rw [hitem]
  | some item =>
    rw [hinput, Option.map_some, eq_comm, Option.map_eq_some_iff] at hitem
    obtain ⟨item', hother, hlook⟩ := hitem
    rw [hother, Option.bind_some, Option.bind_some, hvalue _ _ hlook]
    simp only [htext _ _ hlook]

section Sequences

variable {p : Parser ε ι α} {q : Parser ε ι β}

theorem Sees.map (g : α → β) (hp : Sees f p) : Sees f (p.map g) := by
  intro input other h
  funext pos
  unfold Parser.map
  rw [hp input other h]

theorem Sees.discard (hp : Sees f p) : Sees f (discard p) :=
  hp.map _

theorem Sees.pair (hp : Sees f p) (hq : Sees f q) : Sees f (pair p q) := by
  intro input other h
  funext pos
  unfold Parser.pair
  rw [hp input other h, hq input other h]

theorem Sees.preceded {p : Parser ε ι Unit} (hp : Sees f p) (hq : Sees f q) :
    Sees f (preceded p q) :=
  (hp.pair hq).map _

theorem Sees.delimited {left right : Parser ε ι Unit} (hleft : Sees f left) (hp : Sees f p)
    (hright : Sees f right) : Sees f (delimited left p right) :=
  (hleft.pair (hp.pair hright)).map _

end Sequences

theorem Sees.choice {ps : List (Parser ε ι α)} (h : ∀ p ∈ ps, Sees f p) :
    Sees f (choice ps) := by
  intro input other hmap
  funext pos
  unfold Parser.choice
  generalize none = best
  induction ps generalizing best with
  | nil => rfl
  | cons p ps ih =>
    have ih := ih fun q hq => h q (List.mem_cons_of_mem p hq)
    unfold choiceFrom
    rw [h p List.mem_cons_self input other hmap]
    cases p other pos with
    | ok result => rfl
    | error e => exact ih _

section Repetition

variable {p : Parser ε ι α} (hp : Sees f p)

include hp

theorem Sees.optional : Sees f (optional p) := by
  intro input other h
  funext pos
  unfold Parser.optional
  rw [hp input other h]

theorem Sees.collect_eq {input other : List ι} (h : input.map f = other.map f)
    (counts : Nat → Nat → Bool) (limit pos : Nat) :
    collect counts p input limit pos = collect counts p other limit pos := by
  induction limit generalizing pos with
  | zero => rfl
  | succ limit ih =>
    unfold collect
    rw [hp input other h]
    simp only [ih]

theorem Sees.many : Sees f (many p) := by
  intro input other h
  funext pos
  unfold Parser.many lastPosition
  rw [length_eq_of_map_eq h, hp.collect_eq h]

theorem Sees.many1 : Sees f (many1 p) := by
  intro input other h
  funext pos
  unfold Parser.many1 lastPosition
  rw [length_eq_of_map_eq h, hp input other h]
  simp only [hp.collect_eq h]

theorem Sees.withContext (name : String) : Sees f (withContext p name) := by
  intro input other h
  funext pos
  unfold Parser.withContext
  rw [hp input other h]

end Repetition

end Stencil.Parser
