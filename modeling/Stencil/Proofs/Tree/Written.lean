import Stencil.Token.Rules
import Stencil.Tree

/-!
# Trees in writing

`Statement.written` writes statements as source: texts as they are, tags with one blank on either
side of what is in them, arguments with one blank before each, calls in calls in parentheses and
literals in quotes.

`Statement.Writable` says of which statements the writing can be read back. A text cannot hold an
opener, stand beside another text or end in half an opener that what follows completes; names are
made of the characters of names.
-/

namespace Stencil

/-! ## Writing -/

/-- A character of a literal, so that it stands for itself. -/
def Token.escaped (c : Char) : List Char :=
  if c = '\\' ∨ c = '"' then ['\\', c] else [c]

mutual

/-- An expression as it stands among arguments. -/
def Expression.writtenArgument : Expression → List Char
  | .literal value => '"' :: (value.toList.flatMap Token.escaped ++ ['"'])
  | .path segments => (".".intercalate segments).toList
  | .call name arguments =>
    '(' :: (name.toList ++ (Expression.writtenArguments arguments ++ [')']))

def Expression.writtenArguments : List Expression → List Char
  | [] => []
  | e :: es => ' ' :: (e.writtenArgument ++ Expression.writtenArguments es)

end

/-- The outermost call has no parentheses. -/
def Expression.written : Expression → List Char
  | .call name arguments => name.toList ++ Expression.writtenArguments arguments
  | e => e.writtenArgument

def Marker.ofBlock (negated : Bool) : Marker :=
  if negated then .invertedOpen else .blockOpen

def Marker.writtenTag (marker : Marker) (inside : List Char) : List Char :=
  marker.chars ++ (' ' :: (inside ++ [' ', '}', '}']))

def writtenElseTag : List Char :=
  Marker.interpolation.chars ++ ['e', 'l', 's', 'e', '}', '}']

def writtenCloseTag (name : String) : List Char :=
  Marker.blockClose.chars ++ (name.toList ++ ['}', '}'])

mutual

def Statement.written : Statement → List Char
  | .text value => value.toList
  | .comment value =>
    ['{', '{', '!', '-', '-', ' '] ++ (value.toList ++ [' ', '-', '-', '}', '}'])
  | .interpolation e => Marker.interpolation.writtenTag e.written
  | .block e negated body elseBody =>
    (Marker.ofBlock negated).writtenTag e.written ++ (Statement.writtenAll body ++
      (Statement.writtenElse elseBody ++ writtenCloseTag e.blockName))
  | .unknown => []

def Statement.writtenAll : List Statement → List Char
  | [] => []
  | s :: ss => s.written ++ Statement.writtenAll ss

def Statement.writtenElse : Option (List Statement) → List Char
  | none => []
  | some ss => writtenElseTag ++ Statement.writtenAll ss

end

/-- Statements as a source. -/
def Statement.source (ss : List Statement) : String :=
  String.ofList (Statement.writtenAll ss)

/-! ## What can be written -/

def IsName (name : String) : Prop :=
  name.toList ≠ [] ∧ name.toList.all Token.isIdentifierChar = true

instance (name : String) : Decidable (IsName name) :=
  inferInstanceAs (Decidable (_ ∧ _))

def IsPath (names : List String) : Prop :=
  names ≠ [] ∧ ∀ name ∈ names, IsName name

instance (names : List String) : Decidable (IsPath names) :=
  inferInstanceAs (Decidable (_ ∧ _))

mutual

def Expression.Named : Expression → Prop
  | .literal _ => True
  | .path segments => IsPath segments
  | .call name arguments => IsName name ∧ Expression.AllNamed arguments

def Expression.AllNamed : List Expression → Prop
  | [] => True
  | e :: es => e.Named ∧ Expression.AllNamed es

end

/-- Without arguments the outermost call would be a path. -/
def Expression.Writable (e : Expression) : Prop :=
  e.Named ∧ ∀ name, e ≠ .call name []

/-- A literal that opens a block has to be written as a path to close it. -/
def Expression.Closes : Expression → Prop
  | .literal value => ∃ names, IsPath names ∧ ".".intercalate names = value
  | _ => True

def Statement.IsText : Statement → Prop
  | .text _ => True
  | _ => False

/-- The statements `ss` may come behind `s`, and something else behind them unless `final`. -/
def Statement.MayPrecede (s : Statement) (ss : List Statement) (final : Bool) : Prop :=
  match s with
  | .text value =>
    (∀ next ∈ ss.head?, ¬ next.IsText) ∧
      (value.toList.getLast? = some '{' → ss = [] ∧ final = true)
  | _ => True

mutual

def Statement.Writable : Statement → Prop
  | .text value => value.toList ≠ [] ∧ ¬ ['{', '{'] <:+: value.toList
  | .comment value =>
    Text.trim value.toList = value.toList ∧ ¬ ['-', '-', '}', '}'] <:+: value.toList
  | .interpolation e => e.Writable ∧ e ≠ .path ["else"]
  | .block e _ body elseBody =>
    e.Writable ∧ e.Closes ∧ Statement.AllWritable false body ∧ Statement.ElseWritable elseBody
  | .unknown => False

/-- Statements that can be written one behind the other, at the end of the source if `final`. -/
def Statement.AllWritable (final : Bool) : List Statement → Prop
  | [] => True
  | s :: ss => s.Writable ∧ s.MayPrecede ss final ∧ Statement.AllWritable final ss

def Statement.ElseWritable : Option (List Statement) → Prop
  | none => True
  | some ss => Statement.AllWritable false ss

end

end Stencil
