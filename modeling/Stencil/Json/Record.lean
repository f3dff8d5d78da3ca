import Stencil.Json.Reader

/-!
# Reading records

A record is written as an object with named fields, in any order, or as an array of its fields in
their order. Fields that are left out keep what the record started with. Named fields may stand
once; fields with other names are skipped.
-/

namespace Stencil.Json

/-- A field of the records of a type, and how its value is read into a record: the first argument
bounds the containers of the value. -/
structure RecordField (ρ : Type) where
  name : String
  read : Nat → ρ → Reader ρ

/-- The fields left of a record in array form. -/
def readPositional {ρ : Type} (depth : Nat) : List (RecordField ρ) → Bool → ρ → Reader ρ
  | [], _, r, cs => do return (r, ← closeArray cs)
  | f :: fs, first, r, cs => do
    match ← nextItem first cs with
    | none => return (r, ← closeArray cs)
    | some cs =>
      let (r, cs) ← f.read depth r cs
      readPositional depth fs false r cs

/-- The fields left of a record in object form, when those in `seen` have been read. -/
def readNamed {ρ : Type} (depth : Nat) (fields : List (RecordField ρ)) :
    Nat → Bool → List String → ρ → Reader ρ
  | 0, _, _, _, _ => .error .malformed
  | limit + 1, first, seen, r, cs => do
    match ← nextKey .strict first cs with
    | none => return (r, ← closeObject cs)
    | some (key, cs) =>
      match fields.find? (·.name = key) with
      | none =>
        let cs ← skipValue (← readColon cs)
        readNamed depth fields limit false seen r cs
      | some f =>
        if key ∈ seen then throw .mismatched
        let (r, cs) ← f.read depth r (← readColon cs)
        readNamed depth fields limit false (key :: seen) r cs

/-- A record within `depth` containers, starting from `r`. -/
def readRecord {ρ : Type} (fields : List (RecordField ρ)) (r : ρ) : Nat → Reader ρ
  | 0, cs => .error (refusal cs)
  | depth + 1, cs =>
    match skipSpaces cs with
    | '[' :: rest => readPositional depth fields true r rest
    | '{' :: rest => readNamed depth fields (rest.length + 1) true [] r rest
    | cs => .error (mismatch cs)

end Stencil.Json
