import Stencil.Json.Reader

/-!
# Tagged nodes

A node is a record with a kind: an object with an entry `kind` among its fields, or an array of
the kind and the fields in order. Inside of other nodes a kind may also be given by its place in
the list of kinds.

A node that is read from a text is read to its end before its fields are looked at, but its kind
has to be a text as soon as it is met.
-/

namespace Stencil.Json

/-- The key of the kind. -/
def kindKey : String := "kind"

def node (kind : String) (fields : List (String × Json)) : Json :=
  .object ((kindKey, .string kind) :: fields)

/-- How a node names its kind. -/
inductive Tag
  | name (s : String)
  | place (n : Nat)
deriving DecidableEq

/-- The place of the kind in a list of kinds. -/
def Tag.index? (kinds : List String) : Tag → Option Nat
  | name s => kinds.findIdx? (· = s)
  | place n => if n < kinds.length then some n else none

def Tag.ofJson? : Json → Option Tag
  | .string s => some (.name s)
  | .integer i => if 0 ≤ i then some (.place i.toNat) else none
  | _ => none

/-- The kind of a node and the node without it. -/
def splitNode? : Json → Option (Tag × Json)
  | .object entries =>
    match entries.filter (·.1 = kindKey) with
    | [(_, tag)] => (Tag.ofJson? tag).map (·, .object (entries.filter (·.1 ≠ kindKey)))
    | _ => none
  | .array (tag :: items) => (Tag.ofJson? tag).map (·, .array items)
  | _ => none

/-! ## Fields -/

/-- The values of the named fields; none may stand twice, and an array holds no further items. -/
def fields? (names : List String) : Json → Option (List (Option Json))
  | .object entries =>
    names.mapM fun name =>
      match entries.filter (·.1 = name) with
      | [] => some none
      | [(_, j)] => some (some j)
      | _ => none
  | .array items =>
    if items.length ≤ names.length then some ((List.range names.length).map (items[·]?)) else none
  | _ => none

def string? : Json → Option String
  | .string s => some s
  | _ => none

/-- A flag that is left out is not set. -/
def flag? : Option Json → Option Bool
  | none => some false
  | some (.bool b) => some b
  | _ => none

def list? {α : Type} (item : Json → Option α) : Json → Option (List α)
  | .array items => items.mapM item
  | _ => none

/-- A list that may be left out or null. -/
def optionalList? {α : Type} (item : Json → Option α) : Option Json → Option (Option (List α))
  | none => some none
  | some .null => some none
  | some j => (list? item j).map some

/-! ## Reading texts -/

/-- The entries left of a node in object form, with its kind once that has been read. -/
def readNodeEntries (depth : Nat) :
    Nat → Bool → Option String → Reader (Option String × List (String × Json))
  | 0, _, _, _ => .error .malformed
  | limit + 1, first, kind, cs => do
    match ← nextKey .strict first cs with
    | none => return ((kind, []), ← closeObject cs)
    | some (key, cs) =>
      if key = kindKey then
        if kind.isSome then throw .mismatched
        let (name, cs) ← expectString (← readColon cs)
        readNodeEntries depth limit false (some name) cs
      else
        let (j, cs) ← readValue .strict depth (← readColon cs)
        let ((kind, entries), cs) ← readNodeEntries depth limit false kind cs
        return ((kind, (key, j) :: entries), cs)

/-- A node in array form, behind its opening bracket. -/
def readNodeItems (depth : Nat) : Reader (String × Json) := fun cs => do
  match ← nextItem true cs with
  | none => throw .mismatched
  | some cs =>
    let (name, cs) ← expectString cs
    let (items, cs) ← readItems (readValue .strict depth) (cs.length + 1) false cs
    return ((name, .array items), cs)

/-- A node within `depth` containers: its kind, and the node without it. -/
def readNode : Nat → Reader (String × Json)
  | 0, cs => .error (refusal cs)
  | depth + 1, cs =>
    match skipSpaces cs with
    | '[' :: rest => readNodeItems depth rest
    | '{' :: rest => do
      let ((kind, entries), cs) ← readNodeEntries depth (rest.length + 1) true none rest
      match kind with
      | some name => return ((name, .object entries), cs)
      | none => throw .mismatched
    | cs => .error (mismatch cs)

end Stencil.Json
