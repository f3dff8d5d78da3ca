/-!
# Parsers

A parser reads a list of items from a position and gives the position behind what it read, or an
error with the position it is about. Positions are counted from the start of the list, also in
errors, and may lie behind its end.
-/

namespace Stencil

/-- What a parser met; `ε` holds the faults that a grammar states for itself. -/
inductive ParseError.Cause (ε : Type)
  | unexpectedEnd (expected : String)
  | unexpected (expected found : String)
  | noAlternative
  | failure (fault : ε)
deriving DecidableEq

structure ParseError (ε : Type) where
  cause : ParseError.Cause ε
  position : Nat
  /-- The rules in which the error arose, the innermost first. -/
  context : Option String
deriving DecidableEq

namespace ParseError

variable {ε : Type}

def message [ToString ε] (e : ParseError ε) : String :=
  match e.cause with
  | .unexpectedEnd expected => "unexpected end of input: expected " ++ expected
  | .unexpected expected found => "expected " ++ expected ++ ", found " ++ found
  | .noAlternative => "no alternative matched"
  | .failure fault => toString fault

def failure (fault : ε) (position : Nat) : ParseError ε :=
  ⟨.failure fault, position, none⟩

/-- Adds the name of an enclosing rule. -/
def inRule (name : String) (e : ParseError ε) : ParseError ε :=
  { e with
    context := some (match e.context with
      | some inner => inner ++ " -> " ++ name
      | none => name) }

/-- Of two errors the one further on, the earlier found if they are at one position. -/
def further (best : Option (ParseError ε)) (e : ParseError ε) : ParseError ε :=
  match best with
  | none => e
  | some b => if b.position < e.position then e else b

end ParseError

/-- Parsers of lists of `ι` that read an `α`. -/
abbrev Parser (ε ι α : Type) := List ι → Nat → Except (ParseError ε) (Nat × α)

end Stencil
