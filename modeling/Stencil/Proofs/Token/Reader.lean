import Stencil.Proofs.Token.Lexicon
import Stencil.Proofs.Token.Spelling

/-!
# Readers of parts of tokens

A reader reads a value off the characters that are left, passes, so that others may read in its
place, or fails for good. Labels tell what was being read when it did not succeed.

Readers are put together from readers of parts. `Reader.turns` is the one that repeats: runs of
plain characters, and what stands behind a mark, as long as either follows.
-/

namespace Stencil.Token

/-- What a reader makes of characters. The labels go from the innermost reader outwards. -/
inductive Attempt (α : Type)
  | done (value : α) (rest : List Char)
  | passed (labels : List String)
  | failed (labels : List String)
deriving DecidableEq

abbrev Reader (α : Type) := List Char → Attempt α

variable {α β : Type}

def Attempt.map (f : α → β) : Attempt α → Attempt β
  | done value rest => done (f value) rest
  | passed labels => passed labels
  | failed labels => failed labels

theorem Attempt.map_map {γ : Type} (a : Attempt α) (f : α → β) (g : β → γ) :
    (a.map f).map g = a.map (g ∘ f) := by
  cases a <;> rfl

namespace Reader

/-! ## Characters -/

def char (c : Char) : Reader Char
  | [] => .passed []
  | d :: cs => if d = c then .done d cs else .passed []

/-- All characters that `p` holds of, up to another one. There must be one at least. -/
def run (p : Char → Bool) : Reader (List Char) := fun cs =>
  match cs.takeWhile p with
  | [] => .passed []
  | read => .done read (cs.dropWhile p)

theorem char_eq_passed {c : Char} {cs : List Char} (h : cs.head? ≠ some c) :
    char c cs = .passed [] := by
  cases cs with
  | nil => rfl
  | cons d cs => exact if_neg fun hd => h (congrArg some hd)

theorem run_eq_done {p : Char → Bool} {read rest : List Char} (h : MaximalRun p read rest) :
    run p (read ++ rest) = .done read rest := by
  obtain ⟨htake, hdrop⟩ := takeWhile_eq h.all h.ends
  unfold run
  rw [htake, hdrop]
  obtain ⟨c, read, rfl⟩ := List.exists_cons_of_ne_nil h.ne_nil
  rfl

theorem run_eq_passed {p : Char → Bool} {c : Char} (h : p c = false) (cs : List Char) :
    run p (c :: cs) = .passed [] := by
  unfold run
  rw [List.takeWhile_cons, h]
  rfl

/-! ## Sequences and alternatives -/

def map (r : Reader α) (f : α → β) : Reader β := fun cs =>
  (r cs).map f

def pair (r : Reader α) (s : Reader β) : Reader (α × β) := fun cs =>
  match r cs with
  | .done a rest => (s rest).map fun b => (a, b)
  | .passed labels => .passed labels
  | .failed labels => .failed labels

def preceded (r : Reader α) (s : Reader β) : Reader β :=
  (pair r s).map Prod.snd

def terminated (r : Reader α) (s : Reader β) : Reader α :=
  (pair r s).map Prod.fst

/-- The first reader that does not pass decides, or else the last one. -/
def firstOf : List (Reader α) → Reader α
  | [], _ => .passed []
  | [r], cs => r cs
  | r :: rs, cs =>
    match r cs with
    | .passed _ => firstOf rs cs
    | decided => decided

def optional (r : Reader α) : Reader (Option α) := fun cs =>
  match r cs with
  | .done a rest => .done (some a) rest
  | .passed _ => .done none cs
  | .failed labels => .failed labels

/-! ## Failures -/

/-- What passes is a failure here. -/
def committed (r : Reader α) : Reader α := fun cs =>
  match r cs with
  | .passed labels => .failed labels
  | decided => decided

def labelled (label : String) (r : Reader α) : Reader α := fun cs =>
  match r cs with
  | .done a rest => .done a rest
  | .passed labels => .passed (labels ++ [label])
  | .failed labels => .failed (labels ++ [label])

/-! ## Repetition -/

/-- Turns of `plain`, and of `marked` behind a `mark`, up to where neither follows; `total`
characters were left before the first turn. They pass if no turn is made, or if a mark is the last
character, and a first turn that takes no character is the only one. Where every turn takes one,
there are no more turns than characters, so that a limit of that many is never reached. -/
def turns (plain : Reader (List Char)) (mark : Char) (marked : Reader (List Char)) (total : Nat) :
    Nat → Reader (List Char)
  | _, [] => .done [] []
  | 0, cs => .done [] cs
  | limit + 1, c :: cs =>
    match plain (c :: cs) with
    | .done read rest =>
      if rest.length = total then .done read (c :: cs)
      else (turns plain mark marked total limit rest).map (read ++ ·)
    | .passed _ =>
      if c = mark then
        if cs = [] then .passed []
        else
          match marked cs with
          | .done value rest => (turns plain mark marked total limit rest).map (value ++ ·)
          | undone => undone
      else if (c :: cs).length = total then .passed []
      else .done [] (c :: cs)
    | .failed labels => .failed labels

def transformed (plain : Reader (List Char)) (mark : Char) (marked : Reader (List Char)) :
    Reader (List Char) := fun cs =>
  turns plain mark marked cs.length cs.length cs

section Turns

variable {plain marked : Reader (List Char)} {mark : Char} {total limit : Nat}

theorem turns_nil : turns plain mark marked total limit [] = .done [] [] := by
  rw [turns]

theorem turns_of_done {c : Char} {cs read rest : List Char}
    (hplain : plain (c :: cs) = .done read rest) (hne : rest.length ≠ total) :
    turns plain mark marked total (limit + 1) (c :: cs) =
      (turns plain mark marked total limit rest).map (read ++ ·) := by
  rw [turns, hplain]
  exact if_neg hne

/-- Behind a mark, the turn is that of `marked`. -/
theorem turns_of_mark {labels : List String} {c : Char} {cs : List Char}
    (hplain : plain (mark :: c :: cs) = .passed labels) :
    turns plain mark marked total (limit + 1) (mark :: c :: cs) =
      match marked (c :: cs) with
      | .done value rest => (turns plain mark marked total limit rest).map (value ++ ·)
      | undone => undone := by
  rw [turns, hplain]
  simp only [if_true, List.cons_ne_nil, if_false]

theorem turns_of_last_mark {labels : List String} (hplain : plain [mark] = .passed labels) :
    turns plain mark marked total (limit + 1) [mark] = .passed [] := by
  rw [turns, hplain]
  simp only [if_true]

theorem turns_of_ne {labels : List String} {c : Char} {cs : List Char}
    (hplain : plain (c :: cs) = .passed labels) (hc : c ≠ mark) :
    turns plain mark marked total (limit + 1) (c :: cs) =
      if (c :: cs).length = total then .passed [] else .done [] (c :: cs) := by
  rw [turns, hplain]
  exact if_neg hc

end Turns

end Reader

end Stencil.Token
