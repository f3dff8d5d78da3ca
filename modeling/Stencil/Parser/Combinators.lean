import Stencil.Parser

/-!
# Parser combinators

Repetition stops at the first failure, and when a round reads nothing. A choice that fails reports
the error that got furthest, since it tells best what was meant.
-/

namespace Stencil.Parser

variable {ε ι α β γ : Type}

/-! ## Single items -/

def unexpected [ToString ι] (expected : String) (input : List ι) (pos : Nat) : ParseError ε :=
  match input[pos]? with
  | some item => ⟨.unexpected expected (toString item), pos, none⟩
  | none => ⟨.unexpectedEnd expected, pos, none⟩

/-- One item that `f` gives a value to; errors call such items `expected`. -/
def satisfy [ToString ι] (expected : String) (f : ι → Option α) : Parser ε ι α := fun input pos =>
  match input[pos]?.bind f with
  | some a => .ok (pos + 1, a)
  | none => .error (unexpected expected input pos)

/-- One item that equals `item`. -/
def equal [ToString ι] [DecidableEq ι] (item : ι) : Parser ε ι ι :=
  satisfy (toString item) fun found => if found = item then some found else none

/-! ## Sequences -/

def map (p : Parser ε ι α) (f : α → β) : Parser ε ι β := fun input pos =>
  match p input pos with
  | .ok (stop, a) => .ok (stop, f a)
  | .error e => .error e

def discard (p : Parser ε ι α) : Parser ε ι Unit :=
  p.map fun _ => ()

def pair (p : Parser ε ι α) (q : Parser ε ι β) : Parser ε ι (α × β) := fun input pos =>
  match p input pos with
  | .ok (mid, a) =>
    match q input mid with
    | .ok (stop, b) => .ok (stop, a, b)
    | .error e => .error e
  | .error e => .error e

def preceded (p : Parser ε ι Unit) (q : Parser ε ι α) : Parser ε ι α :=
  (pair p q).map (·.2)

def delimited (left : Parser ε ι Unit) (p : Parser ε ι α) (right : Parser ε ι Unit) :
    Parser ε ι α :=
  (pair left (pair p right)).map (·.2.1)

/-! ## Alternatives -/

/-- The first success of the alternatives, or the furthest of their errors and `best`. -/
def choiceFrom (best : Option (ParseError ε)) : List (Parser ε ι α) → Parser ε ι α
  | [], _, pos => .error (best.getD ⟨.noAlternative, pos, none⟩)
  | p :: ps, input, pos =>
    match p input pos with
    | .ok result => .ok result
    | .error e => choiceFrom (some (ParseError.further best e)) ps input pos

def choice (ps : List (Parser ε ι α)) : Parser ε ι α :=
  choiceFrom none ps

def optional (p : Parser ε ι α) : Parser ε ι (Option α) := fun input pos =>
  match p input pos with
  | .ok (stop, a) => .ok (stop, some a)
  | .error _ => .ok (pos, none)

/-! ## Repetition -/

/-- The last position there is: positions are words of 64 bits, and every item has one. -/
def lastPosition (input : List ι) : Nat :=
  max input.length (Nat.pow 2 64 - 1)

theorem length_le_lastPosition (input : List ι) : input.length ≤ lastPosition input :=
  Nat.le_max_left _ _

/-- The values that `p` reads one after the other, in at most `limit` rounds, as long as the round
from one position to the next one `counts`. -/
def collect (counts : Nat → Nat → Bool) (p : Parser ε ι α) (input : List ι) :
    Nat → Nat → Nat × List α
  | 0, pos => (pos, [])
  | limit + 1, pos =>
    match p input pos with
    | .ok (next, a) =>
      if counts pos next then
        let (stop, as) := collect counts p input limit next
        (stop, a :: as)
      else (pos, [])
    | .error _ => (pos, [])

/-- Every round goes forward, so there are no more rounds than positions ahead. -/
def many (p : Parser ε ι α) : Parser ε ι (List α) := fun input pos =>
  .ok (collect (fun pos next => pos < next) p input (lastPosition input - pos) pos)

/-- The first value counts even if it is read from nothing; behind it, every round leaves its
position. A run that comes back to a position never ends, so one that ends has no more rounds than
there are other positions. -/
def many1 (p : Parser ε ι α) : Parser ε ι (List α) := fun input pos =>
  match p input pos with
  | .ok (next, a) =>
    let (stop, as) := collect (fun pos next => next ≠ pos) p input (lastPosition input) next
    .ok (stop, a :: as)
  | .error e => .error e

/-! ## Errors -/

def withContext (p : Parser ε ι α) (name : String) : Parser ε ι α := fun input pos =>
  match p input pos with
  | .ok result => .ok result
  | .error e => .error (e.inRule name)

def fail (fault : ε) : Parser ε ι α := fun _ pos =>
  .error (.failure fault pos)

/-- Reads nothing. -/
def succeed (a : α) : Parser ε ι α := fun _ pos =>
  .ok (pos, a)

end Stencil.Parser
