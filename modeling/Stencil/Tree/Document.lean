import Stencil.Json.Node
import Stencil.Json.Record
import Stencil.Json.Writer
import Stencil.Tree

/-!
# Trees as JSON

A tree is kept as a JSON document in which statements and expressions are tagged nodes. What is
written has one form: the kind first, then the fields of the kind, an else body only where there
is one. What is read may have any form of nodes, with unknown fields between the known ones. A
statement of an unknown kind stands for nothing.

The outermost record is read field by field, so that a field of the wrong shape counts before
anything behind it.
-/

namespace Stencil

open Stencil.Json

/-! ## Kinds -/

def Expression.kinds : List String :=
  ["LITERAL", "PATH", "HELPER_CALL"]

def Statement.kinds : List String :=
  ["TEXT", "COMMENT", "MUSTACHE", "SECTION"]

/-- The kind of statements of unknown kinds. -/
def Statement.unknownKind : String := "UNKNOWN"

def Template.kind : String := "TEMPLATE"

/-! ## Writing -/

mutual

def Expression.toJson : Expression → Json
  | .literal value => node "LITERAL" [("value", .string value)]
  | .path segments => node "PATH" [("segments", .array (segments.map .string))]
  | .call name arguments =>
    node "HELPER_CALL"
      [("name", .string name), ("arguments", .array (Expression.listToJson arguments))]

def Expression.listToJson : List Expression → List Json
  | [] => []
  | e :: es => e.toJson :: Expression.listToJson es

end

mutual

def Statement.toJson : Statement → Json
  | .text value => node "TEXT" [("value", .string value)]
  | .comment value => node "COMMENT" [("value", .string value)]
  | .interpolation e => node "MUSTACHE" [("expression", e.toJson)]
  | .block e negated body elseBody =>
    node "SECTION"
      ([("expression", e.toJson), ("negated", .bool negated),
        ("body", .array (Statement.listToJson body))] ++ Statement.elseToJson elseBody)
  | .unknown => node Statement.unknownKind []

def Statement.listToJson : List Statement → List Json
  | [] => []
  | s :: ss => s.toJson :: Statement.listToJson ss

def Statement.elseToJson : Option (List Statement) → List (String × Json)
  | none => []
  | some ss => [("elseBody", .array (Statement.listToJson ss))]

end

def Template.toJson (t : Template) : Json :=
  node Template.kind
    [("version", .integer t.version), ("statements", .array (Statement.listToJson t.statements))]

/-- The text of a tree. -/
def Template.document (t : Template) : String :=
  t.toJson.text

/-! ## Reading nodes

The first argument bounds the nesting of nodes; the containers of the document do so, too.
-/

def Expression.ofJsonWithin? : Nat → Json → Option Expression
  | 0, _ => none
  | depth + 1, j => do
    let (tag, rest) ← splitNode? j
    match ← tag.index? Expression.kinds with
    | 0 =>
      let [some value] ← fields? ["value"] rest | none
      return .literal (← string? value)
    | 1 =>
      let [some segments] ← fields? ["segments"] rest | none
      return .path (← list? string? segments)
    | _ =>
      let [some name, some arguments] ← fields? ["name", "arguments"] rest | none
      return .call (← string? name) (← list? (Expression.ofJsonWithin? depth) arguments)

def Expression.ofJson? (j : Json) : Option Expression :=
  Expression.ofJsonWithin? j.nesting j

/-- A node of an unknown kind has no fields in array form. -/
def Statement.ofUnknown? : Json → Option Statement
  | .array (_ :: _) => none
  | _ => some .unknown

/-- A statement of the kind `tag`, when `nested` reads the statements in it. -/
def Statement.ofFields? (nested : Json → Option Statement) (tag : Tag) (rest : Json) :
    Option Statement :=
  match tag.index? Statement.kinds with
  | some 0 => do
    let [some value] ← fields? ["value"] rest | none
    return .text (← string? value)
  | some 1 => do
    let [some value] ← fields? ["value"] rest | none
    return .comment (← string? value)
  | some 2 => do
    let [some e] ← fields? ["expression"] rest | none
    return .interpolation (← Expression.ofJson? e)
  | some _ => do
    let [some e, negated, some body, elseBody] ←
      fields? ["expression", "negated", "body", "elseBody"] rest | none
    return .block (← Expression.ofJson? e) (← flag? negated) (← list? nested body)
      (← optionalList? nested elseBody)
  | none => Statement.ofUnknown? rest

def Statement.ofJsonWithin? : Nat → Json → Option Statement
  | 0, _ => none
  | depth + 1, j => do
    let (tag, rest) ← splitNode? j
    Statement.ofFields? (Statement.ofJsonWithin? depth) tag rest

def Statement.ofJson? (j : Json) : Option Statement :=
  Statement.ofJsonWithin? j.nesting j

/-! ## Reading texts -/

def Statement.reader (depth : Nat) : Reader Statement := fun cs => do
  let ((name, rest), cs) ← readNode depth cs
  match Statement.ofFields? Statement.ofJson? (.name name) rest with
  | some s => return (s, cs)
  | none => throw .mismatched

def Template.checkKind (name : String) : Except ReadError Unit :=
  if name = Template.kind then .ok () else .error .mismatched

/-- The kind of the outermost record: a string, or an object with the kind as its only key and
null as the value. -/
def Template.kindReader (depth : Nat) : Reader Unit := fun cs =>
  match skipSpaces cs with
  | [] => .error .truncated
  | '"' :: rest => do
    let (name, cs) ← readString .strict rest
    Template.checkKind name
    return ((), cs)
  | '{' :: rest => do
    if depth = 0 then throw .malformed
    let (name, cs) ← readKey .strict (skipSpaces rest)
    Template.checkKind name
    let ((), cs) ← expectNull (← readColon cs)
    return ((), ← closeObject cs)
  | _ => .error .malformed

/-- A template of which not all fields have been read. -/
structure Template.Draft where
  version : Option Int
  statements : Option (List Statement)

def Template.fields : List (RecordField Template.Draft) := [
  ⟨"kind", fun depth d cs => do
    let ((), cs) ← Template.kindReader depth cs
    return (d, cs)⟩,
  ⟨"version", fun _ d cs => do
    let (v, cs) ← expectInt64 cs
    return ({ d with version := some v }, cs)⟩,
  ⟨"statements", fun depth d cs => do
    let (ss, cs) ← expectArray Statement.reader depth cs
    return ({ d with statements := some ss }, cs)⟩]

def Template.reader : Reader Template := fun cs => do
  let (d, cs) ← readRecord Template.fields ⟨none, none⟩ containerLimit cs
  match d with
  | ⟨some version, some statements⟩ => return (⟨version, statements⟩, cs)
  | _ => throw .mismatched

/-- The tree that a text holds. -/
def Template.ofDocument (s : String) : Except ReadError Template :=
  whole Template.reader s

end Stencil
