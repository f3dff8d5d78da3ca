import Stencil.Json.Node
import Stencil.Proofs.Json.RoundTrip

/-!
# Written nodes

A node that is written with its kind first is split into its kind and its fields, in a document
(`splitNode?_node`) as well as in a text (`readNode_node`).
-/

namespace Stencil.Json

/-- The fields of a node whose kind stands before them. -/
def Unkinded (fields : List (String × Json)) : Prop :=
  ∀ e ∈ fields, e.1 ≠ kindKey

theorem splitNode?_node (kind : String) {fields : List (String × Json)} (h : Unkinded fields) :
    splitNode? (node kind fields) = some (.name kind, .object fields) := by
  have hkind : fields.filter (·.1 = kindKey) = [] := by
    rw [List.filter_eq_nil_iff]
    intro e he
    simpa using h e he
  have hrest : fields.filter (·.1 ≠ kindKey) = fields := by
    rw [List.filter_eq_self]
    intro e he
    simpa using h e he
  unfold node splitNode?
  simp only [List.filter_cons, decide_true, if_true, hkind, Tag.ofJson?, Option.map_some,
    ne_eq, not_true_eq_false, decide_false, Bool.false_eq_true, if_false]
  rw [← hrest]
  simp

theorem expectString_stringText (s : String) (rest : List Char) :
    expectString (stringText s ++ rest) = .ok (s, rest) := by
  rw [stringText_append]
  unfold expectString
  rw [skipSpaces_cons (by decide)]
  exact readString_stringText .strict s rest

theorem readNodeEntries_close (depth limit : Nat) (first : Bool) (kind : Option String)
    (rest : List Char) :
    readNodeEntries depth (limit + 1) first kind ('}' :: rest) = .ok ((kind, []), rest) := by
  rw [readNodeEntries, nextKey_close, ok_bind]
  show (closeObject ('}' :: rest) >>= fun cs => .ok ((kind, []), cs)) = _
  rw [closeObject_cons, ok_bind]

theorem readNodeEntries_laterItems {depth : Nat} (kind : Option String)
    {fields : List (String × Json)} (hkind : Unkinded fields)
    (h : ∀ e ∈ fields, ∀ rest, EndsItem rest →
      readValue .strict depth (chars e.2 ++ rest) = .ok (e.2, rest)) {limit : Nat}
    (hlimit : fields.length < limit) (rest : List Char) :
    readNodeEntries depth limit false kind (laterItems entryChars fields ++ '}' :: rest) =
      .ok ((kind, fields), rest) := by
  induction fields generalizing limit with
  | nil =>
    cases limit with
    | zero => contradiction
    | succ limit => exact readNodeEntries_close depth limit false kind rest
  | cons e es ih =>
    obtain ⟨key, j⟩ := e
    cases limit with
    | zero => contradiction
    | succ limit =>
      have hlength : es.length < limit := by
        rw [List.length_cons] at hlimit
        omega
      have hmore := ih (fun b hb => hkind b (List.mem_cons_of_mem _ hb))
        (fun b hb => h b (List.mem_cons_of_mem _ hb)) hlength
      have hkey : key ≠ kindKey := hkind _ List.mem_cons_self
      have hvalue := h _ List.mem_cons_self (laterItems entryChars es ++ '}' :: rest)
        (laterItems_endsItem entryChars es (by decide) rest)
      rw [laterEntries_cons, readNodeEntries, nextKey_later, ok_bind]
      show (if key = kindKey then _ else _) = _
      rw [if_neg hkey, readColon_cons, ok_bind, hvalue, ok_bind]
      show (readNodeEntries depth limit false kind _ >>= _) = _
      rw [hmore, ok_bind]
      rfl

theorem length_le_laterEntries (es : List (String × Json)) (rest : List Char) :
    es.length < (laterItems entryChars es ++ '}' :: rest).length := by
  have := length_le_laterItems entryChars es
  rw [List.length_append, List.length_cons]
  omega

theorem node_chars (kind : String) (fields : List (String × Json)) (rest : List Char) :
    chars (node kind fields) ++ rest =
      '{' :: (stringText kindKey ++ ':' :: (stringText kind ++
        (laterItems entryChars fields ++ '}' :: rest))) := by
  unfold node
  rw [chars, entriesChars_eq, listItems, entryChars, chars]
  simp

/-- A node is read to its end, and its kind is told from its fields. -/
theorem readNode_node {depth : Nat} (kind : String) {fields : List (String × Json)}
    (hkind : Unkinded fields) (hexact : EntriesExact fields)
    (hdepth : nestingEntries fields ≤ depth) (rest : List Char) :
    readNode (depth + 1) (chars (node kind fields) ++ rest) =
      .ok ((kind, .object fields), rest) := by
  have hvalues : ∀ e ∈ fields, ∀ rest, EndsItem rest →
      readValue .strict depth (chars e.2 ++ rest) = .ok (e.2, rest) := fun e he rest hrest =>
    readValue_chars (entriesExact_iff.1 hexact e he) (nestingEntries_le_iff.1 hdepth e he)
      hrest.endsNumber
  have hlimit : fields.length < (stringText kindKey ++ ':' :: (stringText kind ++
      (laterItems entryChars fields ++ '}' :: rest))).length := by
    have := length_le_laterEntries fields rest
    rw [List.length_append, List.length_cons, List.length_append]
    omega
  have hmore := readNodeEntries_laterItems (some kind) hkind hvalues hlimit rest
  have hentries : readNodeEntries depth ((stringText kindKey ++ ':' :: (stringText kind ++
      (laterItems entryChars fields ++ '}' :: rest))).length + 1) true none
      (stringText kindKey ++ ':' :: (stringText kind ++
        (laterItems entryChars fields ++ '}' :: rest))) = .ok ((some kind, fields), rest) := by
    rw [readNodeEntries, nextKey_first, ok_bind]
    show (if kindKey = kindKey then _ else _) = _
    rw [if_pos rfl]
    show (readColon _ >>= _) = _
    rw [readColon_cons, ok_bind, expectString_stringText, ok_bind]
    exact hmore
  rw [node_chars, readNode, skipSpaces_cons (by decide)]
  show (readNodeEntries depth _ true none _ >>= _) = _
  rw [hentries, ok_bind]
  rfl

end Stencil.Json
