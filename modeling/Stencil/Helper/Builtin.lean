import Stencil.Helper
import Stencil.Number.Rounding
import Stencil.Text.Blank
import Stencil.Text.Casing
import Stencil.Value.Inspect

/-!
# Ready helpers

Nine helpers that need no state: for the case and the ends of texts, lengths, comparison, truth,
fallbacks and the joining of arrays. Those for texts take every value that writes something, and
what is absent as the empty text.
-/

namespace Stencil

inductive Builtin
  | upper
  | lower
  | trim
  | capitalize
  | length
  | eq
  | not
  | default
  | join
deriving DecidableEq, Inhabited

namespace Builtin

def all : List Builtin :=
  [upper, lower, trim, capitalize, length, eq, not, default, join]

def name : Builtin → String
  | upper => "upper"
  | lower => "lower"
  | trim => "trim"
  | capitalize => "capitalize"
  | length => "length"
  | eq => "eq"
  | not => "not"
  | default => "default"
  | join => "join"

def ofName? (s : String) : Option Builtin :=
  all.find? (·.name = s)

abbrev Result := Except HelperError Value

def invalid (b : Builtin) (reason : String) : Result :=
  .error (.invalidArgument b.name reason)

def wrongCount (b : Builtin) (expected : Nat) (arguments : List Value) : Result :=
  b.invalid ("expected " ++ toString expected ++ " argument(s), got " ++ toString arguments.length)

def withOne (b : Builtin) (arguments : List Value) (f : Value → Result) : Result :=
  match arguments with
  | [v] => f v
  | _ => b.wrongCount 1 arguments

def withTwo (b : Builtin) (arguments : List Value) (f : Value → Value → Result) : Result :=
  match arguments with
  | [v, w] => f v w
  | _ => b.wrongCount 2 arguments

def isContainer : Value → Bool
  | .array _ => true
  | .object _ => true
  | _ => false

/-- Applies `f` to the text that a value writes. -/
def mapText (b : Builtin) (f : List Char → List Char) (arguments : List Value) : Result :=
  b.withOne arguments fun v =>
    if isContainer v then b.invalid ("expected text, got " ++ v.inspect)
    else .ok (.string (String.ofList (f v.output.toList)))

def ofCount (n : Nat) : Value :=
  .number (.ofInt n)

def lengthOf (v : Value) : Result :=
  match v with
  | .string s => .ok (ofCount s.length)
  | .array items => .ok (ofCount items.length)
  | .object entries => .ok (ofCount entries.length)
  | other => length.invalid ("cannot take the length of " ++ other.inspect)

def joinItems (items : List Value) (separator : String) : Result :=
  .ok (.string (separator.intercalate (items.map Value.output)))

/-- The separator may be left out. -/
def joinAll (arguments : List Value) : Result :=
  match arguments with
  | [.array items] => joinItems items ","
  | [.array items, .string separator] => joinItems items separator
  | [.array _, other] => join.invalid ("separator must be a string, got " ++ other.inspect)
  | [other] => join.invalid ("expected an array, got " ++ Inspect.option (some other.inspect))
  | [other, _] => join.invalid ("expected an array, got " ++ Inspect.option (some other.inspect))
  | _ => join.invalid ("expected 1 or 2 arguments, got " ++ toString arguments.length)

def apply (b : Builtin) (arguments : List Value) : Result :=
  match b with
  | upper => b.mapText Text.upper arguments
  | lower => b.mapText Text.lower arguments
  | trim => b.mapText Text.trim arguments
  | capitalize => b.mapText Text.capitalize arguments
  | length => b.withOne arguments lengthOf
  | eq => b.withTwo arguments fun v w => .ok (.bool (v.equals w))
  | not => b.withOne arguments fun v => .ok (.bool !v.isTruthy)
  | default => b.withTwo arguments fun v fallback => .ok (if v.isTruthy then v else fallback)
  | join => joinAll arguments

def helper {σ : Type} (b : Builtin) : Helper σ :=
  .ofFunction b.apply

end Builtin

/-- Adds every ready helper, in place of those that have their names. -/
def Registry.registerBuiltins {σ : Type} (r : Registry σ) : Registry σ :=
  Builtin.all.foldl (fun r b => r.register b.name b.helper) r

end Stencil
