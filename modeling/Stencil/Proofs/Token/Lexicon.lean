import Stencil.Token.Rules

/-!
# The lexical grammar

What a source is made of, said without rules that are tried one after the other. Outside of markers
stand comments, openers and texts; inside of a marker stand runs of blanks, literals, punctuation
and names, up to the closer. `IsItem` says what the next item is, and `Faulty` where there is none.
-/

namespace Stencil.Token

/-! ## Outside of markers -/

/-- The first `mark` in `cs` stands between `before` and `behind`. -/
def FirstMark (mark cs before behind : List Char) : Prop :=
  cs = before ++ (mark ++ behind) ∧
    ∀ earlier later, cs = earlier ++ (mark ++ later) → before.length ≤ earlier.length

/-- A comment with its closing mark. Two dashes behind its opening belong to a longer opening if the
longer closing follows somewhere. -/
inductive IsComment : List Char → List Char → List Char → Prop
  | long {cs content rest : List Char} : FirstMark ['-', '-', '}', '}'] cs content rest →
    IsComment ('{' :: '{' :: '!' :: '-' :: '-' :: cs) content rest
  | short {cs content rest : List Char} :
    (∀ more, cs = '-' :: '-' :: more → ¬ ['-', '-', '}', '}'] <:+: more) →
    FirstMark ['}', '}'] cs content rest → IsComment ('{' :: '{' :: '!' :: cs) content rest

/-- The text before the first opening braces, or all of it if there are none. -/
inductive IsText : List Char → List Char → List Char → Prop
  | last {cs : List Char} : ¬ ['{', '{'] <:+: cs → IsText cs cs []
  | before {cs content behind : List Char} : FirstMark ['{', '{'] cs content behind →
    IsText cs content ('{' :: '{' :: behind)

/-- No opener is longer that the characters begin with. -/
def Marker.Longest (marker : Marker) (cs : List Char) : Prop :=
  ∀ other : Marker, other.chars <+: cs → other.chars.length ≤ marker.chars.length

/-- Outside of markers, the characters begin with the token, and the rest follows. -/
inductive Outside : List Char → Token → List Char → Prop
  | comment {cs content rest : List Char} : IsComment cs content rest →
    Outside cs (.comment (String.ofList (Text.trim content))) rest
  | opener {marker : Marker} {rest : List Char} : ¬ ['{', '{', '!'] <+: marker.chars ++ rest →
    Marker.Longest marker (marker.chars ++ rest) →
    Outside (marker.chars ++ rest) (.opener marker) rest
  | text {cs content rest : List Char} : content ≠ [] → IsText cs content rest →
    Outside cs (.text (String.ofList content)) rest

/-! ## Inside of a marker -/

/-- All that `p` holds of before `rest`, which is something. -/
structure MaximalRun (p : Char → Bool) (run rest : List Char) : Prop where
  ne_nil : run ≠ []
  all : ∀ c ∈ run, p c = true
  ends : ∀ c ∈ rest.head?, p c = false

/-- Behind a backslash, the one character stands for the other. -/
inductive Escapes : Char → Char → Prop
  | backslash : Escapes '\\' '\\'
  | quote : Escapes '"' '"'
  | newline : Escapes 'n' '\n'
  | tab : Escapes 't' '\t'

/-- What may stand behind the opening quote of a literal, and the value it has so far. -/
inductive Spells : List Char → List Char → Prop
  | nil : Spells [] []
  | plain {c : Char} {body value : List Char} : c ≠ '\\' → c ≠ '"' → Spells body value →
    Spells (c :: body) (c :: value)
  | escape {c e : Char} {body value : List Char} : Escapes c e → Spells body value →
    Spells ('\\' :: c :: body) (e :: value)

/-- Inside of a marker, the characters begin with the token, and the rest follows. -/
inductive Inside : List Char → Token → List Char → Prop
  | whitespace {run rest : List Char} : MaximalRun Text.isBlank run rest →
    Inside (run ++ rest) (.whitespace (String.ofList run)) rest
  | closer (rest : List Char) : Inside ('}' :: '}' :: rest) .closer rest
  | literal {body value : List Char} (rest : List Char) : Spells body value →
    Inside ('"' :: (body ++ '"' :: rest)) (.literal (String.ofList value)) rest
  | dot (rest : List Char) : Inside ('.' :: rest) .dot rest
  | leftParen (rest : List Char) : Inside ('(' :: rest) .leftParen rest
  | rightParen (rest : List Char) : Inside (')' :: rest) .rightParen rest
  | identifier {run rest : List Char} : MaximalRun isIdentifierChar run rest →
    Inside (run ++ rest) (.identifier (String.ofList run)) rest

/-! ## Both modes -/

/-- The characters begin with the token, inside of a marker or outside, and the rest follows. -/
def IsItem (inside : Bool) (cs : List Char) (t : Token) (rest : List Char) : Prop :=
  if inside then Inside cs t rest else Outside cs t rest

/-- Neither an item inside of a marker nor a literal can begin with `c`, before `cs`. -/
structure StartsNothing (c : Char) (cs : List Char) : Prop where
  not_blank : Text.isBlank c = false
  not_identifier : isIdentifierChar c = false
  not_mark : c ∉ ['"', '.', '(', ')']
  not_closer : ¬ ['}', '}'] <+: c :: cs

/-- No item can be read, for the reason that `fault` gives. -/
inductive Faulty : Bool → List Char → Fault → Prop
  | comment {cs : List Char} : ¬ ['}', '}'] <:+: cs →
    Faulty false ('{' :: '{' :: '!' :: cs) .unterminatedComment
  | literal {body value : List Char} : Spells body value →
    Faulty true ('"' :: body) .unterminatedLiteral
  | backslash {body value : List Char} : Spells body value →
    Faulty true ('"' :: (body ++ ['\\'])) .unterminatedLiteral
  | escape {body value cs : List Char} {c : Char} : Spells body value → (∀ e, ¬ Escapes c e) →
    Faulty true ('"' :: (body ++ '\\' :: c :: cs)) .invalidEscape
  | character {c : Char} {cs : List Char} : StartsNothing c cs →
    Faulty true (c :: cs) (.unexpectedCharacter c)

end Stencil.Token
