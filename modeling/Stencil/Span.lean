/-!
# Places in a source

A position counts bytes from the start, and lines and the characters of a line from one. A span runs
over bytes and carries the line and column of its start.
-/

namespace Stencil

structure Position where
  offset : Nat
  line : Nat
  column : Nat
deriving DecidableEq, Inhabited

namespace Position

def start : Position :=
  ⟨0, 1, 1⟩

/-- The position behind one character. -/
def next (p : Position) (c : Char) : Position :=
  if c = '\n' then ⟨p.offset + c.utf8Size, p.line + 1, 1⟩
  else ⟨p.offset + c.utf8Size, p.line, p.column + 1⟩

/-- The position behind a text. -/
def after (p : Position) (cs : List Char) : Position :=
  cs.foldl next p

end Position

structure Span where
  start : Nat
  stop : Nat
  line : Nat
  column : Nat
deriving DecidableEq, Inhabited

namespace Span

/-- From `p` to the byte `stop`. -/
def since (p : Position) (stop : Nat) : Span :=
  ⟨p.offset, stop, p.line, p.column⟩

def text (s : Span) : String :=
  "line " ++ toString s.line ++ ", column " ++ toString s.column

end Span

end Stencil
