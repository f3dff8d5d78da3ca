import Stencil.Proofs.Json.Node
import Stencil.Tree.Document

/-!
# Encoded trees

What a tree is written as in JSON is decoded to this tree again: expressions
(`Expression.ofJson?_toJson`) and statements (`Statement.ofFields?_jsonFields`), which are read from
a text in one piece (`Statement.readsItem`).
-/

namespace Stencil

open Stencil.Json

/-! ## Lists -/

theorem mapM_map_eq_some {α β : Type} {f : β → Option α} {g : α → β} {as : List α}
    (h : ∀ a ∈ as, f (g a) = some a) : (as.map g).mapM f = some as := by
  induction as with
  | nil => rfl
  | cons a as ih =>
    rw [List.map_cons, List.mapM_cons, h a List.mem_cons_self,
      ih fun b hb => h b (List.mem_cons_of_mem _ hb)]
    rfl

theorem Expression.listToJson_eq (es : List Expression) :
    Expression.listToJson es = es.map Expression.toJson := by
  induction es with
  | nil => rw [Expression.listToJson, List.map_nil]
  | cons e es ih => rw [Expression.listToJson, ih, List.map_cons]

theorem Statement.listToJson_eq (ss : List Statement) :
    Statement.listToJson ss = ss.map Statement.toJson := by
  induction ss with
  | nil => rw [Statement.listToJson, List.map_nil]
  | cons s ss ih => rw [Statement.listToJson, ih, List.map_cons]

theorem list?_array {α : Type} {f : Json → Option α} {g : α → Json} {as : List α}
    (h : ∀ a ∈ as, f (g a) = some a) : list? f (.array (as.map g)) = some as :=
  mapM_map_eq_some h

theorem nestingItems_map_le_iff {α : Type} {g : α → Json} {as : List α} {depth : Nat} :
    nestingItems (as.map g) ≤ depth ↔ ∀ a ∈ as, (g a).nesting ≤ depth := by
  rw [nestingItems_le_iff]
  simp

/-! ## Expressions -/

theorem nesting_node (kind : String) (fields : List (String × Json)) :
    (node kind fields).nesting = nestingEntries fields + 1 := by
  simp [node, nesting, nestingEntries]

theorem exact_node {kind : String} {fields : List (String × Json)} (h : EntriesExact fields) :
    (node kind fields).Exact :=
  ⟨trivial, h⟩

mutual

theorem Expression.toJson_exact : ∀ e : Expression, e.toJson.Exact
  | .literal _ => exact_node ⟨trivial, trivial⟩
  | .path segments => by
    refine exact_node ⟨allExact_iff.2 ?_, trivial⟩
    intro j hj
    obtain ⟨s, -, rfl⟩ := List.mem_map.1 hj
    trivial
  | .call _ arguments =>
    exact_node ⟨trivial, Expression.listToJson_exact arguments, trivial⟩

theorem Expression.listToJson_exact : ∀ es : List Expression,
    AllExact (Expression.listToJson es)
  | [] => trivial
  | e :: es => ⟨e.toJson_exact, Expression.listToJson_exact es⟩

end

/-- Decoding undoes encoding, on as many levels as the document has. -/
theorem Expression.ofJsonWithin?_toJson {depth : Nat} {e : Expression}
    (h : e.toJson.nesting ≤ depth) : Expression.ofJsonWithin? depth e.toJson = some e := by
  induction depth generalizing e with
  | zero => cases e <;> simp [Expression.toJson, nesting_node] at h
  | succ depth ih =>
    cases e with
    | literal value =>
      have hsplit : splitNode? (Expression.literal value).toJson = some (.name "LITERAL", _) :=
        splitNode?_node _ (by simp [Unkinded, kindKey])
      rw [Expression.ofJsonWithin?, hsplit]
      rfl
    | path segments =>
      have hsplit : splitNode? (Expression.path segments).toJson = some (.name "PATH", _) :=
        splitNode?_node _ (by simp [Unkinded, kindKey])
      have hsegments : list? string? (.array (segments.map .string)) = some segments :=
        list?_array fun _ _ => rfl
      rw [Expression.ofJsonWithin?, hsplit]
      show (list? string? (.array (segments.map .string)) >>= fun segments =>
        some (Expression.path segments)) = _
      rw [hsegments]
      rfl
    | call name arguments =>
      have hsplit : splitNode? (Expression.call name arguments).toJson =
          some (.name "HELPER_CALL", _) :=
        splitNode?_node _ (by simp [Unkinded, kindKey])
      have hdepth : ∀ e ∈ arguments, e.toJson.nesting ≤ depth := by
        rw [Expression.toJson, nesting_node, Expression.listToJson_eq] at h
        simp only [nestingEntries, nesting, Nat.zero_max, Nat.max_zero] at h
        exact nestingItems_map_le_iff.1 (by omega)
      have harguments : list? (Expression.ofJsonWithin? depth)
          (.array (Expression.listToJson arguments)) = some arguments := by
        rw [Expression.listToJson_eq]
        exact list?_array fun e he => ih (hdepth e he)
      rw [Expression.ofJsonWithin?, hsplit]
      show (list? (Expression.ofJsonWithin? depth) (.array (Expression.listToJson arguments)) >>=
        fun arguments => some (Expression.call name arguments)) = _
      rw [harguments]
      rfl

theorem Expression.ofJson?_toJson (e : Expression) : Expression.ofJson? e.toJson = some e :=
  Expression.ofJsonWithin?_toJson (Nat.le_refl _)

/-! ## Statements -/

mutual

theorem Statement.toJson_exact : ∀ s : Statement, s.toJson.Exact
  | .text _ => exact_node ⟨trivial, trivial⟩
  | .comment _ => exact_node ⟨trivial, trivial⟩
  | .interpolation e => exact_node ⟨e.toJson_exact, trivial⟩
  | .block e _ body elseBody =>
    exact_node ⟨e.toJson_exact, trivial, Statement.listToJson_exact body,
      Statement.elseToJson_exact elseBody⟩
  | .unknown => exact_node trivial

theorem Statement.listToJson_exact : ∀ ss : List Statement, AllExact (Statement.listToJson ss)
  | [] => trivial
  | s :: ss => ⟨s.toJson_exact, Statement.listToJson_exact ss⟩

theorem Statement.elseToJson_exact : ∀ elseBody : Option (List Statement),
    EntriesExact (Statement.elseToJson elseBody)
  | none => trivial
  | some ss => ⟨Statement.listToJson_exact ss, trivial⟩

end

/-- The kind that stands first in the JSON of a statement. -/
def Statement.kindName : Statement → String
  | .text _ => "TEXT"
  | .comment _ => "COMMENT"
  | .interpolation _ => "MUSTACHE"
  | .block _ _ _ _ => "SECTION"
  | .unknown => Statement.unknownKind

/-- The fields behind the kind. -/
def Statement.jsonFields : Statement → List (String × Json)
  | .text value => [("value", .string value)]
  | .comment value => [("value", .string value)]
  | .interpolation e => [("expression", e.toJson)]
  | .block e negated body elseBody =>
    [("expression", e.toJson), ("negated", .bool negated),
      ("body", .array (Statement.listToJson body))] ++ Statement.elseToJson elseBody
  | .unknown => []

theorem Statement.toJson_eq_node (s : Statement) : s.toJson = node s.kindName s.jsonFields := by
  cases s <;> rw [Statement.toJson] <;> rfl

theorem Statement.unkinded_jsonFields (s : Statement) : Unkinded s.jsonFields := by
  cases s with
  | block e negated body elseBody =>
    cases elseBody <;> simp [Unkinded, Statement.jsonFields, Statement.elseToJson, kindKey]
  | _ => simp [Unkinded, Statement.jsonFields, kindKey]

theorem Statement.nesting_toJson (s : Statement) :
    s.toJson.nesting = nestingEntries s.jsonFields + 1 := by
  rw [Statement.toJson_eq_node, nesting_node]

/-- The statements of a list in a field are two levels below. -/
theorem Statement.nesting_lt_of_mem {s : Statement} (key : String) {ss : List Statement}
    (h : (key, .array (Statement.listToJson ss)) ∈ s.jsonFields) {t : Statement} (ht : t ∈ ss) :
    t.toJson.nesting + 2 ≤ s.toJson.nesting := by
  have hfield := nestingEntries_le_iff.1 (Nat.le_refl (nestingEntries s.jsonFields)) _ h
  rw [nesting, Statement.listToJson_eq] at hfield
  have hmem := nestingItems_map_le_iff.1
    (Nat.le_refl (nestingItems (ss.map Statement.toJson))) t ht
  rw [Statement.nesting_toJson s]
  omega

/-- The fields of a statement give it back, when `nested` gives back the statements in it. -/
theorem Statement.ofFields?_jsonFields {nested : Json → Option Statement} (s : Statement)
    (h : ∀ t : Statement, t.toJson.nesting + 2 ≤ s.toJson.nesting → nested t.toJson = some t) :
    Statement.ofFields? nested (.name s.kindName) (.object s.jsonFields) = some s := by
  cases s with
  | text value => rfl
  | comment value => rfl
  | interpolation e =>
    show (Expression.ofJson? e.toJson >>= fun e => some (Statement.interpolation e)) = _
    rw [Expression.ofJson?_toJson]
    rfl
  | unknown => rfl
  | block e negated body elseBody =>
    have hbody : list? nested (.array (Statement.listToJson body)) = some body := by
      rw [Statement.listToJson_eq]
      refine list?_array fun t ht => h t (Statement.nesting_lt_of_mem "body" ?_ ht)
      simp [Statement.jsonFields]
    cases elseBody with
    | none =>
      show (Expression.ofJson? e.toJson >>= fun e => list? nested (.array _) >>= fun body =>
        some (Statement.block e negated body none)) = _
      rw [Expression.ofJson?_toJson, hbody]
      rfl
    | some ss =>
      have helse : list? nested (.array (Statement.listToJson ss)) = some ss := by
        rw [Statement.listToJson_eq]
        refine list?_array fun t ht => h t (Statement.nesting_lt_of_mem "elseBody" ?_ ht)
        simp [Statement.jsonFields, Statement.elseToJson]
      show (Expression.ofJson? e.toJson >>= fun e => list? nested (.array _) >>= fun body =>
        (list? nested (.array _)).map some >>= fun elseBody =>
          some (Statement.block e negated body elseBody)) = _
      rw [Expression.ofJson?_toJson, hbody, helse]
      rfl

/-- Decoding undoes encoding, on as many levels as the document has. -/
theorem Statement.ofJsonWithin?_toJson {depth : Nat} {s : Statement}
    (h : s.toJson.nesting ≤ depth) : Statement.ofJsonWithin? depth s.toJson = some s := by
  induction depth generalizing s with
  | zero =>
    rw [Statement.nesting_toJson] at h
    omega
  | succ depth ih =>
    rw [Statement.toJson_eq_node, Statement.ofJsonWithin?,
      splitNode?_node _ s.unkinded_jsonFields]
    exact s.ofFields?_jsonFields fun t ht => ih (by omega)

theorem Statement.ofJson?_toJson (s : Statement) : Statement.ofJson? s.toJson = some s :=
  Statement.ofJsonWithin?_toJson (Nat.le_refl _)

/-- A statement is read from a text where its containers fit. -/
theorem Statement.readsItem {s : Statement} {depth : Nat} (h : s.toJson.nesting ≤ depth) :
    ReadsItem (Statement.reader depth) s.toJson.chars s := by
  refine ⟨beginsItem_chars s.toJson_exact, fun rest _ => ?_⟩
  rw [Statement.nesting_toJson] at h
  have hexact := s.toJson_exact
  rw [Statement.toJson_eq_node] at hexact ⊢
  cases depth with
  | zero => omega
  | succ depth =>
    have hfields : nestingEntries s.jsonFields ≤ depth := by omega
    have hnode := readNode_node s.kindName s.unkinded_jsonFields hexact.2 hfields rest
    unfold Statement.reader
    simp only [hnode, ok_bind]
    rw [s.ofFields?_jsonFields fun t _ => t.ofJson?_toJson]
    rfl

end Stencil
