import Stencil.Json.Record
import Stencil.Json.Writer
import Stencil.Path

/-!
# Settings

The settings of an engine: which names paths may not use, and whether the engine starts with the
ready helpers. They are kept as a JSON record, both fields of which may be left out.
-/

namespace Stencil

structure Config where
  unsafeKeys : List String
  builtinHelpers : Bool
deriving DecidableEq, Inhabited

namespace Config

open Stencil.Json

def standard : Config :=
  ⟨Denylist.always, false⟩

def denylist (c : Config) : Denylist :=
  ⟨c.unsafeKeys⟩

def toJson (c : Config) : Json :=
  .object
    [("unsafe_keys", .array (c.unsafeKeys.map .string)),
      ("builtin_helpers", .bool c.builtinHelpers)]

/-- The text of the settings. -/
def document (c : Config) : String :=
  c.toJson.text

def fields : List (RecordField Config) := [
  ⟨"unsafe_keys", fun depth c cs => do
    let (keys, cs) ← expectArray (fun _ => expectString) depth cs
    return ({ c with unsafeKeys := keys }, cs)⟩,
  ⟨"builtin_helpers", fun _ c cs => do
    let (b, cs) ← expectBool cs
    return ({ c with builtinHelpers := b }, cs)⟩]

/-- The settings that a text holds. -/
def ofDocument (s : String) : Except ReadError Config :=
  whole (readRecord fields standard containerLimit) s

end Config

end Stencil
