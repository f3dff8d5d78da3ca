import Stencil.Text.Quoted
import Stencil.Value

/-!
# Inspecting values

A text that shows the whole of a value, kinds included, for messages about it.
-/

namespace Stencil

namespace Inspect

/-- Texts between two brackets, with commas between them. -/
def bracketed (left : String) (items : List String) (right : String) : String :=
  left ++ ", ".intercalate items ++ right

def call (name : String) (arguments : List String) : String :=
  name ++ bracketed "(" arguments ")"

def list (items : List String) : String :=
  bracketed "[" items "]"

def record (name : String) (fields : List (String × String)) : String :=
  name ++ bracketed " \x7b " (fields.map fun (field, value) => field ++ ": " ++ value) " \x7d"

def bool (b : Bool) : String :=
  if b then "true" else "false"

def option (o : Option String) : String :=
  match o with
  | some s => call "Some" [s]
  | none => "None"

def strings (ss : List String) : String :=
  list (ss.map Text.quoted)

end Inspect

namespace Value

/-- Inspected numbers are positional from `1e-4` on up to below `1e16`, and whole ones keep their
point. -/
def inspectLayout : Number.Layout where
  least := -4
  greatest := 15
  wholePoint := true
  plusSign := false
  zeroSign := true
  infinityName := "inf"

mutual

def inspect : Value → String
  | undefined => "Undefined"
  | null => "Null"
  | bool b => Inspect.call "Bool" [Inspect.bool b]
  | number x => Inspect.call "Number" [x.text inspectLayout]
  | string s => Inspect.call "String" [Text.quoted s]
  | array items => Inspect.call "Array" [Inspect.list (inspectItems items)]
  | object entries =>
    Inspect.call "Object" [Inspect.bracketed "\x7b" (inspectEntries entries) "\x7d"]

def inspectItems : List Value → List String
  | [] => []
  | v :: vs => inspect v :: inspectItems vs

def inspectEntries : List (String × Value) → List String
  | [] => []
  | (key, v) :: es => (Text.quoted key ++ ": " ++ inspect v) :: inspectEntries es

end

end Value

end Stencil
