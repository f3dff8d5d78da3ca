import Stencil.Proofs.Json.Record
import Stencil.Proofs.Tree.Decoding

/-!
# Templates in documents

A template is read back from its document just if its version has sixty-four bits and the
containers of the document fit the reader (`Template.ofDocument_document_iff`), and every template
that has been read is such a template (`Template.storable_of_ofDocument`).
-/

namespace Stencil

open Stencil.Json

/-- What a document can hold. -/
structure Template.Storable (t : Template) : Prop where
  least : -2 ^ 63 ≤ t.version
  greatest : t.version < 2 ^ 63
  nesting : t.toJson.nesting < 128

/-! ## Fields -/

theorem listItems_map {α β : Type} (write : β → List Char) (f : α → β) (as : List α) :
    listItems write (as.map f) = listItems (fun a => write (f a)) as := by
  cases as with
  | nil => rfl
  | cons a as => simp [listItems, laterItems, List.flatMap_map]

theorem Template.kindReader_kind (depth : Nat) (rest : List Char) :
    Template.kindReader depth (stringText Template.kind ++ rest) = .ok ((), rest) := by
  unfold Template.kindReader
  rw [stringText_append, skipSpaces_cons (by decide)]
  show (readString .strict _ >>= _) = _
  rw [readString_stringText, ok_bind]
  rfl

theorem expectInt64_integerText {i : Int} (hleast : -2 ^ 63 ≤ i) (hgreatest : i < 2 ^ 63)
    {rest : List Char} (hrest : EndsNumber rest) :
    expectInt64 (chars (.integer i) ++ rest) = .ok (i, rest) := by
  have hexact : Exact (.integer i) := ⟨hleast, by omega⟩
  have hread := readScalar_chars hexact rfl hrest
  obtain ⟨c, ds, hds, hspace, -⟩ := exists_chars_cons hexact
  rw [hds, List.cons_append] at hread ⊢
  unfold expectInt64
  rw [skipSpaces_cons hspace, hread]
  exact if_pos hgreatest

theorem expectArray_statements {depth : Nat} {ss : List Statement}
    (h : ∀ s ∈ ss, s.toJson.nesting ≤ depth) (rest : List Char) :
    expectArray Statement.reader (depth + 1)
      (chars (.array (Statement.listToJson ss)) ++ rest) = .ok (ss, rest) := by
  have hread := readArray_listItems (fun s hs => Statement.readsItem (h s hs)) rest
  rw [← listItems_map chars Statement.toJson, ← Statement.listToJson_eq] at hread
  rw [chars, itemsChars_eq]
  simp only [List.cons_append, List.append_assoc, List.nil_append]
  rw [expectArray, skipSpaces_cons (by decide)]
  exact hread

/-! ## Writing and reading -/

theorem Template.readNamed_kind (limit : Nat) (rest : List Char) :
    readNamed 126 Template.fields (limit + 1) true [] ⟨none, none⟩
      (stringText kindKey ++ ':' :: (stringText Template.kind ++ rest)) =
    readNamed 126 Template.fields limit false [kindKey] ⟨none, none⟩ rest := by
  apply readNamed_field (nextKey_first _ _ _) rfl (by simp)
  show (Template.kindReader 126 _ >>= _) = _
  rw [Template.kindReader_kind, ok_bind]
  rfl

theorem Template.readNamed_version {v : Int} (hleast : -2 ^ 63 ≤ v) (hgreatest : v < 2 ^ 63)
    (limit : Nat) {rest : List Char} (hrest : EndsItem rest) :
    readNamed 126 Template.fields (limit + 1) false [kindKey] ⟨none, none⟩
      (',' :: (stringText "version" ++ ':' :: (chars (.integer v) ++ rest))) =
    readNamed 126 Template.fields limit false ["version", kindKey] ⟨some v, none⟩ rest := by
  apply readNamed_field (nextKey_later _ _ _) rfl (by simp [kindKey])
  show (expectInt64 _ >>= _) = _
  rw [expectInt64_integerText hleast hgreatest hrest.endsNumber, ok_bind]
  rfl

theorem Template.readNamed_statements (v : Int) {ss : List Statement}
    (h : ∀ s ∈ ss, s.toJson.nesting ≤ 125) (limit : Nat) (rest : List Char) :
    readNamed 126 Template.fields (limit + 1) false ["version", kindKey] ⟨some v, none⟩
      (',' :: (stringText "statements" ++
        ':' :: (chars (.array (Statement.listToJson ss)) ++ rest))) =
    readNamed 126 Template.fields limit false ["statements", "version", kindKey]
      ⟨some v, some ss⟩ rest := by
  apply readNamed_field (nextKey_later _ _ _) rfl (by simp [kindKey])
  show (expectArray Statement.reader (125 + 1) _ >>= _) = _
  rw [expectArray_statements h, ok_bind]
  rfl

/-- The three fields in the order in which they are written, and nothing else. -/
theorem Template.readNamed_fields {v : Int} {ss : List Statement} (hleast : -2 ^ 63 ≤ v)
    (hgreatest : v < 2 ^ 63) (h : ∀ s ∈ ss, s.toJson.nesting ≤ 125) {limit : Nat}
    (hlimit : 4 ≤ limit) (rest : List Char) :
    readNamed 126 Template.fields limit true [] ⟨none, none⟩
      (stringText kindKey ++ ':' :: (stringText Template.kind ++
        ',' :: (stringText "version" ++ ':' :: (chars (.integer v) ++
          ',' :: (stringText "statements" ++
            ':' :: (chars (.array (Statement.listToJson ss)) ++ '}' :: rest)))))) =
      .ok (⟨some v, some ss⟩, rest) := by
  obtain ⟨n, rfl⟩ : ∃ n, limit = n + 4 := ⟨limit - 4, by omega⟩
  rw [Template.readNamed_kind,
    Template.readNamed_version hleast hgreatest _ (endsItem_cons (by decide) _),
    Template.readNamed_statements v h, readNamed_close]

/-- A template is read back from the document that it is written as. -/
theorem Template.ofDocument_document {t : Template} (h : t.Storable) :
    Template.ofDocument t.document = .ok t := by
  obtain ⟨hleast, hgreatest, hnesting⟩ := h
  have hitems : ∀ s ∈ t.statements, s.toJson.nesting ≤ 125 := by
    rw [Template.toJson, nesting_node, Statement.listToJson_eq] at hnesting
    simp only [nestingEntries, Json.nesting] at hnesting
    exact nestingItems_map_le_iff.1 (by omega)
  have hread : Template.reader t.toJson.chars = .ok (t, []) := by
    have hchars := node_chars Template.kind [("version", .integer t.version),
      ("statements", .array (Statement.listToJson t.statements))] []
    rw [List.append_nil, laterEntries_cons, laterEntries_cons] at hchars
    rw [Template.toJson, hchars]
    unfold Template.reader
    show (readRecord Template.fields ⟨none, none⟩ (126 + 1) _ >>= _) = _
    rw [readRecord, skipSpaces_cons (by decide)]
    show (readNamed 126 Template.fields _ true [] ⟨none, none⟩ _ >>= _) = _
    rw [laterItems, List.flatMap_nil, List.nil_append,
      Template.readNamed_fields hleast hgreatest hitems, ok_bind]
    · rfl
    · simp only [List.length_append, List.length_cons]
      omega
  unfold Template.ofDocument whole Template.document Json.text
  rw [String.toList_ofList, hread, ok_bind]
  rfl

/-! ## Reading and writing -/

/-- The parts of a template that have been read fit a document. -/
structure Template.Draft.Fits (d : Template.Draft) : Prop where
  version : ∀ v, d.version = some v → -2 ^ 63 ≤ v ∧ v < 2 ^ 63
  statements : ∀ ss, d.statements = some ss → ∀ s ∈ ss, s.toJson.nesting ≤ 125

theorem le_of_expectInt64 {cs rest : List Char} {i : Int} (h : expectInt64 cs = .ok (i, rest)) :
    -2 ^ 63 ≤ i ∧ i < 2 ^ 63 := by
  unfold expectInt64 at h
  split at h
  · rename_i hread
    split at h
    · rename_i hi
      obtain ⟨rfl, -⟩ := Prod.mk.inj (Except.ok.inj h)
      exact ⟨(isScalar_of_readScalar hread).least _ rfl, hi⟩
    · cases h
  · cases h

theorem nesting_le_of_expectArray {depth : Nat} {cs rest : List Char} {ss : List Statement}
    (h : expectArray Statement.reader (depth + 1) cs = .ok (ss, rest)) :
    ∀ s ∈ ss, s.toJson.nesting ≤ depth := by
  rw [expectArray] at h
  split at h
  · unfold readArray at h
    exact forall_of_readItems (fun _ _ _ hread => Statement.nesting_le_of_reader hread) h
  · cases h

theorem Template.fields_keep : ∀ f ∈ Template.fields, f.Keeps 126 Template.Draft.Fits := by
  intro f hf d cs d' rest hd h
  simp only [Template.fields, List.mem_cons, List.not_mem_nil, or_false] at hf
  rcases hf with rfl | rfl | rfl
  · obtain ⟨_, -, heq⟩ := bind_eq_ok.1 h
    obtain ⟨rfl, -⟩ := Prod.mk.inj (Except.ok.inj heq)
    exact hd
  · obtain ⟨⟨v, cs₁⟩, hv, heq⟩ := bind_eq_ok.1 h
    obtain ⟨rfl, -⟩ := Prod.mk.inj (Except.ok.inj heq)
    refine ⟨fun w hw => ?_, hd.statements⟩
    obtain rfl := Option.some.inj hw
    exact le_of_expectInt64 hv
  · obtain ⟨⟨ss, cs₁⟩, hss, heq⟩ := bind_eq_ok.1 h
    obtain ⟨rfl, -⟩ := Prod.mk.inj (Except.ok.inj heq)
    refine ⟨hd.version, fun ss' hss' => ?_⟩
    obtain rfl := Option.some.inj hss'
    exact nesting_le_of_expectArray hss

/-- What has been read can be written. -/
theorem Template.storable_of_ofDocument {s : String} {t : Template}
    (h : Template.ofDocument s = .ok t) : t.Storable := by
  unfold Template.ofDocument whole at h
  obtain ⟨⟨t', cs⟩, hread, h⟩ := bind_eq_ok.1 h
  unfold Template.reader at hread
  obtain ⟨⟨d, cs'⟩, hrecord, hread⟩ := bind_eq_ok.1 hread
  have hfits : d.Fits := readRecord_invariant Template.fields_keep
    ⟨by simp, by simp⟩ hrecord
  dsimp only at h hread
  split at h
  · obtain rfl := Except.ok.inj h
    split at hread
    · rename_i version statements
      obtain ⟨rfl, -⟩ := Prod.mk.inj (Except.ok.inj hread)
      obtain ⟨hleast, hgreatest⟩ := hfits.version version rfl
      have hstatements := nestingItems_map_le_iff.2 (hfits.statements statements rfl)
      refine ⟨hleast, hgreatest, ?_⟩
      rw [Template.toJson, nesting_node, Statement.listToJson_eq]
      simp only [nestingEntries, Json.nesting]
      omega
    · cases hread
  · cases h

theorem Template.ofDocument_document_iff {t : Template} :
    Template.ofDocument t.document = .ok t ↔ t.Storable :=
  ⟨Template.storable_of_ofDocument, Template.ofDocument_document⟩

/-- **Reading undoes writing.** A template whose document fits the reader is read back from it, and
what has been read from any text, in whatever form, is such a template. -/
theorem Template.ofDocument_undoes_document :
    (∀ t : Template, -2 ^ 63 ≤ t.version → t.version < 2 ^ 63 → t.toJson.nesting < 128 →
      Template.ofDocument t.document = .ok t) ∧
    (∀ (s : String) (t : Template), Template.ofDocument s = .ok t →
      Template.ofDocument t.document = .ok t) := by
  constructor
  · intro t hleast hgreatest hnesting
    exact Template.ofDocument_document ⟨hleast, hgreatest, hnesting⟩
  · intro s t hread
    exact Template.ofDocument_document (Template.storable_of_ofDocument hread)

/-- A template that no source has, and one that is read from an array with a node in array form. -/
theorem Template.ofDocument_unusual :
    Template.ofDocument (Template.document ⟨-7, [.unknown, .text "\"\x01\\é",
        .block (.path []) true [] (some []), .interpolation (.call "" [])]⟩) =
      .ok ⟨-7, [.unknown, .text "\"\x01\\é",
        .block (.path []) true [] (some []), .interpolation (.call "" [])]⟩ ∧
    Template.ofDocument "[\"TEMPLATE\", 2, [[\"TEXT\", \"a\"]]]" = .ok ⟨2, [.text "a"]⟩ ∧
    Template.ofDocument (Template.document ⟨2, [.text "a"]⟩) = .ok ⟨2, [.text "a"]⟩ := by
  have hread : Template.ofDocument "[\"TEMPLATE\", 2, [[\"TEXT\", \"a\"]]]" =
      .ok ⟨2, [.text "a"]⟩ := by rfl
  refine ⟨Template.ofDocument_undoes_document.1 _ (by decide) (by decide) (by decide), hread, ?_⟩
  exact Template.ofDocument_undoes_document.2 _ _ hread

end Stencil
