import Stencil.Json.Numeral

/-!
# Reading JSON

A reader takes the characters that are left and gives what it read together with the characters
behind it. Documents are read with a bound on the nesting of their containers. A lenient reader is
for what is skipped: it takes numbers of any size and escapes of lone surrogates.

The errors tell a text that ends too early from one that is no JSON, so a reader looks at the
characters strictly in order and stops at the first that cannot stand where it stands.
-/

namespace Stencil.Json

abbrev Reader (α : Type) := List Char → Except ReadError (α × List Char)

inductive Rigour
  | strict
  | lenient
deriving DecidableEq

def Rigour.isStrict : Rigour → Bool
  | strict => true
  | lenient => false

/-- The blanks that may stand between the parts of a document. -/
def isSpace (c : Char) : Bool :=
  c = ' ' ∨ c = '\n' ∨ c = '\t' ∨ c = '\r'

def skipSpaces (cs : List Char) : List Char :=
  cs.dropWhile isSpace

/-- The characters of a word that has to follow. -/
def readWord : List Char → List Char → Except ReadError (List Char)
  | [], cs => .ok cs
  | _ :: _, [] => .error .truncated
  | w :: ws, c :: cs => if c = w then readWord ws cs else .error .malformed

/-! ## Strings -/

def hexValue? (c : Char) : Option Nat :=
  if c.isDigit then some (c.toNat - '0'.toNat)
  else if 'a' ≤ c ∧ c ≤ 'f' then some (c.toNat - 'a'.toNat + 10)
  else if 'A' ≤ c ∧ c ≤ 'F' then some (c.toNat - 'A'.toNat + 10)
  else none

def hexUnit? (a b c d : Char) : Option Nat := do
  let a ← hexValue? a
  let b ← hexValue? b
  let c ← hexValue? c
  let d ← hexValue? d
  return ((a * 16 + b) * 16 + c) * 16 + d

/-- What an escape of fewer than four characters is: cut short if fewer than four bytes are left. -/
def shortEscape (cs : List Char) : ReadError :=
  if (String.ofList cs).utf8ByteSize < 4 then .truncated else .malformed

def isHighSurrogate (n : Nat) : Bool := 0xD800 ≤ n ∧ n < 0xDC00

def isLowSurrogate (n : Nat) : Bool := 0xDC00 ≤ n ∧ n < 0xE000

def joinSurrogates (high low : Nat) : Char :=
  Char.ofNat (0x10000 + (high - 0xD800) * 0x400 + (low - 0xDC00))

def letterEscape? (c : Char) : Option Char :=
  if c = '"' ∨ c = '\\' ∨ c = '/' then some c
  else if c = 'b' then some '\x08'
  else if c = 'f' then some '\x0c'
  else if c = 'n' then some '\n'
  else if c = 'r' then some '\r'
  else if c = 't' then some '\t'
  else none

def prepend (c : Char) : Except ReadError (List Char × List Char) →
    Except ReadError (List Char × List Char) :=
  Except.map fun (cs, rest) => (c :: cs, rest)

/-- The rest of a string whose opening quote has been read. -/
def readStringChars (rigour : Rigour) : Reader (List Char)
  | [] => .error .truncated
  | '"' :: rest => .ok ([], rest)
  | '\\' :: 'u' :: a :: b :: c :: d :: rest =>
    match hexUnit? a b c d with
    | none => .error .malformed
    | some unit =>
      if isHighSurrogate unit && rigour.isStrict then
        match rest with
        | '\\' :: 'u' :: a :: b :: c :: d :: rest =>
          match hexUnit? a b c d with
          | none => .error .malformed
          | some low =>
            if isLowSurrogate low then
              prepend (joinSurrogates unit low) (readStringChars rigour rest)
            else .error .malformed
        | '\\' :: 'u' :: rest => .error (shortEscape rest)
        | ['\\'] => .error .truncated
        | [] => .error .truncated
        | _ => .error .malformed
      else if isLowSurrogate unit && rigour.isStrict then .error .malformed
      else prepend (Char.ofNat unit) (readStringChars rigour rest)
  | '\\' :: 'u' :: rest => .error (shortEscape rest)
  | '\\' :: c :: rest =>
    match letterEscape? c with
    | some e => prepend e (readStringChars rigour rest)
    | none => .error .malformed
  | ['\\'] => .error .truncated
  | c :: rest => if c.toNat < 32 then .error .malformed else prepend c (readStringChars rigour rest)

def readString (rigour : Rigour) : Reader String :=
  fun cs => (readStringChars rigour cs).map fun (s, rest) => (String.ofList s, rest)

/-! ## Numbers -/

def readDigits (cs : List Char) : List Char × List Char :=
  (cs.takeWhile Char.isDigit, cs.dropWhile Char.isDigit)

/-- No digit stands where one has to. -/
def noDigit : List Char → ReadError
  | [] => .truncated
  | _ => .malformed

/-- The whole part has no zero before other digits. -/
def readWhole (cs : List Char) : Except ReadError (List Char × List Char) :=
  match readDigits cs with
  | ([], rest) => .error (noDigit rest)
  | ('0' :: _ :: _, _) => .error .malformed
  | (digits, rest) => .ok (digits, rest)

def readFraction : Reader (List Char)
  | '.' :: cs =>
    match readDigits cs with
    | ([], rest) => .error (noDigit rest)
    | (digits, rest) => .ok (digits, rest)
  | cs => .ok ([], cs)

def readSign : List Char → Bool × List Char
  | '-' :: cs => (true, cs)
  | '+' :: cs => (false, cs)
  | cs => (false, cs)

def readExponent : Reader (Option Int)
  | c :: cs =>
    if c = 'e' ∨ c = 'E' then
      let (negative, cs) := readSign cs
      match readDigits cs with
      | ([], rest) => .error (noDigit rest)
      | (digits, rest) =>
        .ok (some (if negative then -(digitsValue digits : Int) else digitsValue digits), rest)
    else .ok (none, c :: cs)
  | [] => .ok (none, [])

/-- The numeral behind an optional sign that has been read. -/
def readNumeral (negative : Bool) : Reader Numeral := fun cs => do
  let (whole, cs) ← readWhole cs
  let (fraction, cs) ← readFraction cs
  let (exponent, cs) ← readExponent cs
  return (⟨negative, whole, fraction, exponent⟩, cs)

def readNumber (rigour : Rigour) (negative : Bool) : Reader Json := fun cs =>
  match rigour, readNumeral negative cs with
  | .lenient, .ok (_, rest) => .ok (.null, rest)
  | .lenient, .error _ => .error .malformed
  | .strict, .error e => .error e
  | .strict, .ok (n, rest) =>
    match n.toJson? with
    | some j => .ok (j, rest)
    | none => .error .malformed

/-! ## Containers -/

/-- The characters of the next item of an array, or `none` before the bracket that closes it. -/
def nextItem (first : Bool) (cs : List Char) : Except ReadError (Option (List Char)) :=
  match skipSpaces cs with
  | [] => .error .truncated
  | ']' :: _ => .ok none
  | c :: rest =>
    if first then .ok (some (c :: rest))
    else if c = ',' then
      match skipSpaces rest with
      | [] => .error .truncated
      | ']' :: _ => .error .malformed
      | rest => .ok (some rest)
    else .error .malformed

def closeArray (cs : List Char) : Except ReadError (List Char) :=
  match skipSpaces cs with
  | [] => .error .truncated
  | ']' :: rest => .ok rest
  | _ => .error .malformed

def readKey (rigour : Rigour) : Reader String
  | [] => .error .truncated
  | '"' :: cs => readString rigour cs
  | _ => .error .malformed

/-- The next key of an object, or `none` before the brace that closes it. -/
def nextKey (rigour : Rigour) (first : Bool) (cs : List Char) :
    Except ReadError (Option (String × List Char)) :=
  match skipSpaces cs with
  | [] => .error .truncated
  | '}' :: _ => .ok none
  | c :: rest =>
    if first then (readKey rigour (c :: rest)).map some
    else if c = ',' then (readKey rigour (skipSpaces rest)).map some
    else .error .malformed

def readColon (cs : List Char) : Except ReadError (List Char) :=
  match skipSpaces cs with
  | [] => .error .truncated
  | ':' :: rest => .ok rest
  | _ => .error .malformed

def closeObject (cs : List Char) : Except ReadError (List Char) :=
  match skipSpaces cs with
  | [] => .error .truncated
  | '}' :: rest => .ok rest
  | _ => .error .malformed

/-- The items of an array up to its bracket, which is read too. Every item takes a character, so a
limit of the number of characters is never reached. -/
def readItems {α : Type} (item : Reader α) : Nat → Bool → Reader (List α)
  | 0, _, _ => .error .malformed
  | limit + 1, first, cs => do
    match ← nextItem first cs with
    | none => return ([], ← closeArray cs)
    | some cs =>
      let (a, cs) ← item cs
      let (as, cs) ← readItems item limit false cs
      return (a :: as, cs)

def readEntries (rigour : Rigour) (value : Reader Json) :
    Nat → Bool → Reader (List (String × Json))
  | 0, _, _ => .error .malformed
  | limit + 1, first, cs => do
    match ← nextKey rigour first cs with
    | none => return ([], ← closeObject cs)
    | some (key, cs) =>
      let (j, cs) ← value (← readColon cs)
      let (es, cs) ← readEntries rigour value limit false cs
      return ((key, j) :: es, cs)

/-- The array behind its opening bracket. -/
def readArray {α : Type} (item : Reader α) : Reader (List α) :=
  fun cs => readItems item (cs.length + 1) true cs

/-! ## Documents -/

/-- Everything but containers, from its first character on. -/
def readScalar (rigour : Rigour) : Reader Json
  | [] => .error .truncated
  | c :: cs =>
    if c = 'n' then (readWord ['u', 'l', 'l'] cs).map (.null, ·)
    else if c = 't' then (readWord ['r', 'u', 'e'] cs).map (.bool true, ·)
    else if c = 'f' then (readWord ['a', 'l', 's', 'e'] cs).map (.bool false, ·)
    else if c = '-' then readNumber rigour true cs
    else if c.isDigit then readNumber rigour false (c :: cs)
    else if c = '"' then (readString rigour cs).map fun (s, rest) => (.string s, rest)
    else .error .malformed

/-- A value with at most `depth` containers inside each other. -/
def readValue (rigour : Rigour) : Nat → Reader Json
  | 0, cs => readScalar rigour (skipSpaces cs)
  | depth + 1, cs =>
    match skipSpaces cs with
    | '[' :: rest => (readArray (readValue rigour depth) rest).map fun (items, rest) =>
        (.array items, rest)
    | '{' :: rest =>
      (readEntries rigour (readValue rigour depth) (rest.length + 1) true rest).map
        fun (entries, rest) => (.object entries, rest)
    | cs => readScalar rigour cs

/-- Containers may nest this deep. -/
def containerLimit : Nat := 127

/-- A value of which only the end matters. -/
def skipValue (cs : List Char) : Except ReadError (List Char) :=
  (readValue .lenient cs.length cs).map (·.2)

/-- Nothing but blanks may follow a document. -/
def whole {α : Type} (reader : Reader α) (s : String) : Except ReadError α := do
  let (a, rest) ← reader s.toList
  if skipSpaces rest = [] then return a else throw .malformed

def read (s : String) : Except ReadError Json :=
  whole (readValue .strict containerLimit) s

/-! ## Values of an expected kind -/

/-- The error for a value of another kind than expected: a container is wrong at once, anything else
has to be well formed to be wrong in kind only. -/
def mismatch (cs : List Char) : ReadError :=
  match skipSpaces cs with
  | '[' :: _ => .mismatched
  | '{' :: _ => .mismatched
  | cs =>
    match readScalar .strict cs with
    | .ok _ => .mismatched
    | .error e => e

/-- The error where no further container may begin. -/
def refusal (cs : List Char) : ReadError :=
  match skipSpaces cs with
  | '[' :: _ => .malformed
  | '{' :: _ => .malformed
  | cs => mismatch cs

def expectNull : Reader Unit := fun cs =>
  match readScalar .strict (skipSpaces cs) with
  | .ok (.null, rest) => .ok ((), rest)
  | _ => .error (mismatch cs)

def expectString : Reader String := fun cs =>
  match skipSpaces cs with
  | '"' :: rest => readString .strict rest
  | cs => .error (mismatch cs)

def expectBool : Reader Bool := fun cs =>
  match readScalar .strict (skipSpaces cs) with
  | .ok (.bool b, rest) => .ok (b, rest)
  | _ => .error (mismatch cs)

/-- A signed integer of sixty-four bits. -/
def expectInt64 : Reader Int := fun cs =>
  match readScalar .strict (skipSpaces cs) with
  | .ok (.integer i, rest) => if i < Nat.pow 2 63 then .ok (i, rest) else .error .mismatched
  | _ => .error (mismatch cs)

/-- An array within `depth` more containers; its items get one fewer. -/
def expectArray {α : Type} (item : Nat → Reader α) : Nat → Reader (List α)
  | 0, cs =>
    match skipSpaces cs with
    | '[' :: _ => .error .malformed
    | cs => .error (mismatch cs)
  | depth + 1, cs =>
    match skipSpaces cs with
    | '[' :: rest => readArray (item depth) rest
    | cs => .error (mismatch cs)

end Stencil.Json
