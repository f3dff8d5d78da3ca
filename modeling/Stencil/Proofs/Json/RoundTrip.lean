import Stencil.Proofs.Json.Scalar

/-!
# Written documents are read back

`readValue_chars`: the text of a document without floats, whose integers have sixty-four bits, is
read as this document, provided that its containers nest no deeper than the reader goes.
-/

namespace Stencil.Json

/-! ## Spaces and words -/

theorem skipSpaces_cons {c : Char} (h : isSpace c = false) (cs : List Char) :
    skipSpaces (c :: cs) = c :: cs := by
  unfold skipSpaces
  rw [List.dropWhile_cons, h]
  rfl

theorem readWord_append (ws rest : List Char) : readWord ws (ws ++ rest) = .ok rest := by
  induction ws with
  | nil => rfl
  | cons w ws ih => rw [List.cons_append, readWord, if_pos rfl, ih]

/-! ## Items -/

/-- An item begins here, and the array does not end. -/
def BeginsItem (cs : List Char) : Prop :=
  ∃ c ds, cs = c :: ds ∧ isSpace c = false ∧ c ≠ ']'

/-- What stands behind an item of an array or a value of an object. -/
def EndsItem (rest : List Char) : Prop :=
  ∃ c ds, rest = c :: ds ∧ c ∈ [',', ']', '}']

theorem endsItem_cons {c : Char} (h : c ∈ [',', ']', '}']) (cs : List Char) : EndsItem (c :: cs) :=
  ⟨c, cs, rfl, h⟩

theorem EndsItem.endsNumber {rest : List Char} (h : EndsItem rest) : EndsNumber rest := by
  obtain ⟨c, ds, rfl, hc⟩ := h
  intro d hd
  obtain rfl : c = d := Option.some.inj hd
  simp only [List.mem_cons, List.not_mem_nil, or_false] at hc
  rcases hc with rfl | rfl | rfl <;> decide

/-- `item` reads `a` where `cs` stands in an array or an object. -/
def ReadsItem {α : Type} (item : Reader α) (cs : List Char) (a : α) : Prop :=
  BeginsItem cs ∧ ∀ rest, EndsItem rest → item (cs ++ rest) = .ok (a, rest)

theorem nextItem_first {cs : List Char} (h : BeginsItem cs) (rest : List Char) :
    nextItem true (cs ++ rest) = .ok (some (cs ++ rest)) := by
  obtain ⟨c, ds, rfl, hspace, hclose⟩ := h
  unfold nextItem
  rw [List.cons_append, skipSpaces_cons hspace]
  split
  · contradiction
  · rename_i heq
    exact absurd (List.cons.inj heq).1 hclose
  · rename_i heq
    rw [if_pos rfl, heq]

theorem nextItem_later {cs : List Char} (h : BeginsItem cs) (rest : List Char) :
    nextItem false (',' :: (cs ++ rest)) = .ok (some (cs ++ rest)) := by
  obtain ⟨c, ds, rfl, hspace, hclose⟩ := h
  unfold nextItem
  rw [skipSpaces_cons (by decide), List.cons_append]
  split
  · contradiction
  · rename_i heq
    exact absurd (List.cons.inj heq).1 (by decide)
  · rename_i heq
    obtain ⟨rfl, rfl⟩ := List.cons.inj heq
    rw [if_neg (by decide), if_pos rfl, skipSpaces_cons hspace]
    split
    · contradiction
    · rename_i heq
      exact absurd (List.cons.inj heq).1 hclose
    · rfl

theorem nextItem_close (first : Bool) (rest : List Char) :
    nextItem first (']' :: rest) = .ok none := by
  unfold nextItem
  rw [skipSpaces_cons (by decide)]
  rfl

theorem closeArray_cons (rest : List Char) : closeArray (']' :: rest) = .ok rest := by
  unfold closeArray
  rw [skipSpaces_cons (by decide)]
  rfl

section Items

variable {α : Type} {item : Reader α} {write : α → List Char}

/-- Items with a comma before each, as they stand behind a first item. -/
def laterItems (write : α → List Char) (as : List α) : List Char :=
  as.flatMap fun a => ',' :: write a

theorem laterItems_endsItem (write : α → List Char) (as : List α) {closer : Char}
    (h : closer ∈ [',', ']', '}']) (rest : List Char) :
    EndsItem (laterItems write as ++ closer :: rest) := by
  cases as with
  | nil => exact endsItem_cons h rest
  | cons a as => exact endsItem_cons List.mem_cons_self _

theorem readItems_close (limit : Nat) (first : Bool) (rest : List Char) :
    readItems item (limit + 1) first (']' :: rest) = .ok ([], rest) := by
  rw [readItems, nextItem_close, ok_bind]
  show (closeArray (']' :: rest) >>= fun cs => .ok ([], cs)) = _
  rw [closeArray_cons, ok_bind]

theorem readItems_laterItems {as : List α} (h : ∀ a ∈ as, ReadsItem item (write a) a) {limit : Nat}
    (hlimit : as.length < limit) (rest : List Char) :
    readItems item limit false (laterItems write as ++ ']' :: rest) = .ok (as, rest) := by
  induction as generalizing limit with
  | nil =>
    cases limit with
    | zero => contradiction
    | succ limit => exact readItems_close limit false rest
  | cons a as ih =>
    cases limit with
    | zero => contradiction
    | succ limit =>
      obtain ⟨hbegins, hreads⟩ := h a List.mem_cons_self
      have hlength : as.length < limit := by
        rw [List.length_cons] at hlimit
        omega
      have hmore := ih (fun b hb => h b (List.mem_cons_of_mem _ hb)) hlength
      have hchars : laterItems write (a :: as) ++ ']' :: rest =
          ',' :: (write a ++ (laterItems write as ++ ']' :: rest)) := by
        simp [laterItems]
      rw [hchars, readItems, nextItem_later hbegins, ok_bind]
      show (item _ >>= _) = _
      rw [hreads _ (laterItems_endsItem write as (by decide) rest), ok_bind]
      show (readItems item limit false _ >>= _) = _
      rw [hmore, ok_bind]
      rfl

/-- Items with commas between them. -/
def listItems (write : α → List Char) : List α → List Char
  | [] => []
  | a :: as => write a ++ laterItems write as

theorem length_le_laterItems (write : α → List Char) (as : List α) :
    as.length ≤ (laterItems write as).length := by
  induction as with
  | nil => exact Nat.zero_le _
  | cons a as ih =>
    have hchars : laterItems write (a :: as) = ',' :: (write a ++ laterItems write as) := by
      simp [laterItems]
    rw [hchars, List.length_cons, List.length_cons, List.length_append]
    omega

theorem length_le_listItems (write : α → List Char) (as : List α) :
    as.length ≤ (listItems write as).length + 1 := by
  cases as with
  | nil => exact Nat.zero_le _
  | cons a as =>
    have := length_le_laterItems write as
    rw [listItems, List.length_cons, List.length_append]
    omega

theorem readArray_listItems {as : List α} (h : ∀ a ∈ as, ReadsItem item (write a) a)
    (rest : List Char) : readArray item (listItems write as ++ ']' :: rest) = .ok (as, rest) := by
  unfold readArray
  cases as with
  | nil => exact readItems_close _ true rest
  | cons a as =>
    obtain ⟨hbegins, hreads⟩ := h a List.mem_cons_self
    have hlimit : as.length < (listItems write (a :: as) ++ ']' :: rest).length := by
      have := length_le_listItems write (a :: as)
      rw [List.length_cons] at this
      rw [List.length_append, List.length_cons]
      omega
    have hmore := readItems_laterItems (fun b hb => h b (List.mem_cons_of_mem _ hb)) hlimit rest
    have hfirst := nextItem_first hbegins (laterItems write as ++ ']' :: rest)
    have hitem := hreads (laterItems write as ++ ']' :: rest)
      (laterItems_endsItem write as (by decide) rest)
    rw [← List.append_assoc] at hfirst hitem
    rw [readItems]
    show (nextItem true (write a ++ laterItems write as ++ ']' :: rest) >>= _) = _
    rw [hfirst, ok_bind]
    show (item _ >>= _) = _
    rw [hitem, ok_bind]
    show (readItems item _ false _ >>= _) = _
    rw [hmore, ok_bind]
    rfl

end Items

/-! ## Entries -/

theorem readKey_stringText (rigour : Rigour) (key : String) (rest : List Char) :
    readKey rigour (stringText key ++ rest) = .ok (key, rest) := by
  rw [stringText_append]
  exact readString_stringText rigour key rest

theorem nextKey_first (rigour : Rigour) (key : String) (rest : List Char) :
    nextKey rigour true (stringText key ++ rest) = .ok (some (key, rest)) := by
  have hkey := readKey_stringText rigour key rest
  rw [stringText_append] at hkey ⊢
  unfold nextKey
  rw [skipSpaces_cons (by decide)]
  show (readKey rigour _).map some = _
  rw [hkey]
  rfl

theorem nextKey_later (rigour : Rigour) (key : String) (rest : List Char) :
    nextKey rigour false (',' :: (stringText key ++ rest)) = .ok (some (key, rest)) := by
  have hkey := readKey_stringText rigour key rest
  rw [stringText_append] at hkey ⊢
  unfold nextKey
  rw [skipSpaces_cons (by decide)]
  show (readKey rigour (skipSpaces _)).map some = _
  rw [skipSpaces_cons (by decide), hkey]
  rfl

theorem nextKey_close (rigour : Rigour) (first : Bool) (rest : List Char) :
    nextKey rigour first ('}' :: rest) = .ok none := by
  unfold nextKey
  rw [skipSpaces_cons (by decide)]
  rfl

theorem readColon_cons (rest : List Char) : readColon (':' :: rest) = .ok rest := by
  unfold readColon
  rw [skipSpaces_cons (by decide)]
  rfl

theorem closeObject_cons (rest : List Char) : closeObject ('}' :: rest) = .ok rest := by
  unfold closeObject
  rw [skipSpaces_cons (by decide)]
  rfl

def entryChars (e : String × Json) : List Char :=
  stringText e.1 ++ ':' :: chars e.2

theorem laterEntries_cons (key : String) (j : Json) (es : List (String × Json))
    (rest : List Char) : laterItems entryChars ((key, j) :: es) ++ rest =
      ',' :: (stringText key ++ ':' :: (chars j ++ (laterItems entryChars es ++ rest))) := by
  simp [laterItems, entryChars]

section Entries

variable {rigour : Rigour} {value : Reader Json}

theorem readEntries_close (limit : Nat) (first : Bool) (rest : List Char) :
    readEntries rigour value (limit + 1) first ('}' :: rest) = .ok ([], rest) := by
  rw [readEntries, nextKey_close, ok_bind]
  show (closeObject ('}' :: rest) >>= fun cs => .ok ([], cs)) = _
  rw [closeObject_cons, ok_bind]

/-- The part of reading an entry behind its key. -/
theorem readEntries_entry {limit : Nat} {first : Bool} {cs : List Char} {key : String} {j : Json}
    {es : List (String × Json)} {ds rest : List Char}
    (hkey : nextKey rigour first cs = .ok (some (key, ':' :: (chars j ++ ds))))
    (hvalue : value (chars j ++ ds) = .ok (j, ds))
    (hmore : readEntries rigour value limit false ds = .ok (es, rest)) :
    readEntries rigour value (limit + 1) first cs = .ok ((key, j) :: es, rest) := by
  rw [readEntries, hkey, ok_bind]
  show (readColon _ >>= _) = _
  rw [readColon_cons, ok_bind, hvalue, ok_bind]
  show (readEntries rigour value limit false ds >>= _) = _
  rw [hmore, ok_bind]
  rfl

theorem readEntries_laterItems {es : List (String × Json)}
    (h : ∀ e ∈ es, ∀ rest, EndsItem rest → value (chars e.2 ++ rest) = .ok (e.2, rest))
    {limit : Nat} (hlimit : es.length < limit) (rest : List Char) :
    readEntries rigour value limit false (laterItems entryChars es ++ '}' :: rest) =
      .ok (es, rest) := by
  induction es generalizing limit with
  | nil =>
    cases limit with
    | zero => contradiction
    | succ limit => exact readEntries_close limit false rest
  | cons e es ih =>
    obtain ⟨key, j⟩ := e
    cases limit with
    | zero => contradiction
    | succ limit =>
      have hlength : es.length < limit := by
        rw [List.length_cons] at hlimit
        omega
      have hmore := ih (fun b hb => h b (List.mem_cons_of_mem _ hb)) hlength
      rw [laterEntries_cons]
      exact readEntries_entry (nextKey_later _ _ _)
        (h _ List.mem_cons_self _ (laterItems_endsItem entryChars es (by decide) rest)) hmore

theorem readEntries_listItems {es : List (String × Json)}
    (h : ∀ e ∈ es, ∀ rest, EndsItem rest → value (chars e.2 ++ rest) = .ok (e.2, rest))
    {limit : Nat} (hlimit : es.length < limit) (rest : List Char) :
    readEntries rigour value limit true (listItems entryChars es ++ '}' :: rest) =
      .ok (es, rest) := by
  cases limit with
  | zero => contradiction
  | succ limit =>
    cases es with
    | nil => exact readEntries_close limit true rest
    | cons e es =>
      obtain ⟨key, j⟩ := e
      have hlength : es.length < limit := by
        rw [List.length_cons] at hlimit
        omega
      have hmore : readEntries rigour value limit false _ = .ok (es, rest) :=
        readEntries_laterItems (fun b hb => h b (List.mem_cons_of_mem _ hb)) hlength rest
      have hchars : listItems entryChars ((key, j) :: es) ++ '}' :: rest =
          stringText key ++ ':' :: (chars j ++ (laterItems entryChars es ++ '}' :: rest)) := by
        simp [listItems, entryChars]
      rw [hchars]
      exact readEntries_entry (nextKey_first _ _ _)
        (h _ List.mem_cons_self _ (laterItems_endsItem entryChars es (by decide) rest)) hmore

end Entries

/-! ## Documents -/

mutual

/-- No floats, and integers of sixty-four bits. -/
def Exact : Json → Prop
  | integer i => -2 ^ 63 ≤ i ∧ i < 2 ^ 64
  | float _ => False
  | array items => AllExact items
  | object entries => EntriesExact entries
  | _ => True

def AllExact : List Json → Prop
  | [] => True
  | j :: js => j.Exact ∧ AllExact js

def EntriesExact : List (String × Json) → Prop
  | [] => True
  | (_, j) :: es => j.Exact ∧ EntriesExact es

end

theorem itemsChars_eq (js : List Json) : itemsChars js = listItems chars js := by
  induction js with
  | nil => rw [itemsChars, listItems]
  | cons j js ih =>
    cases js with
    | nil => simp [itemsChars, listItems, laterItems]
    | cons k js =>
      rw [itemsChars, ih]
      simp [listItems, laterItems]

theorem entriesChars_eq (es : List (String × Json)) :
    entriesChars es = listItems entryChars es := by
  induction es with
  | nil => rw [entriesChars, listItems]
  | cons e es ih =>
    obtain ⟨key, j⟩ := e
    cases es with
    | nil => simp [entriesChars, listItems, laterItems, entryChars]
    | cons e es =>
      rw [entriesChars, ih]
      simp [listItems, laterItems, entryChars]

theorem allExact_iff {js : List Json} : AllExact js ↔ ∀ j ∈ js, j.Exact := by
  induction js with
  | nil => simp [AllExact]
  | cons j js ih => simp [AllExact, ih]

theorem entriesExact_iff {es : List (String × Json)} :
    EntriesExact es ↔ ∀ e ∈ es, e.2.Exact := by
  induction es with
  | nil => simp [EntriesExact]
  | cons e es ih => simp [EntriesExact, ih]

theorem nestingItems_le_iff {js : List Json} {depth : Nat} :
    nestingItems js ≤ depth ↔ ∀ j ∈ js, j.nesting ≤ depth := by
  induction js with
  | nil => simp [nestingItems]
  | cons j js ih => rw [nestingItems, Nat.max_le, List.forall_mem_cons, ih]

theorem nestingEntries_le_iff {es : List (String × Json)} {depth : Nat} :
    nestingEntries es ≤ depth ↔ ∀ e ∈ es, e.2.nesting ≤ depth := by
  induction es with
  | nil => simp [nestingEntries]
  | cons e es ih => rw [nestingEntries, Nat.max_le, List.forall_mem_cons, ih]

theorem exists_integerText_cons (i : Int) :
    ∃ c ds, integerText i = c :: ds ∧ (c = '-' ∨ c.isDigit = true) := by
  unfold integerText
  by_cases hi : i < 0
  · rw [if_pos hi]
    exact ⟨_, _, rfl, .inl rfl⟩
  · rw [if_neg hi, List.nil_append]
    obtain ⟨d, ds, hds, hdigit⟩ := exists_toDigits_cons i.natAbs
    exact ⟨d, ds, hds, .inr hdigit⟩

/-- Where a document begins; brackets and braces begin containers. -/
theorem exists_chars_cons {j : Json} (h : j.Exact) :
    ∃ c ds, j.chars = c :: ds ∧ isSpace c = false ∧ c ≠ ']' ∧
      (j.nesting = 0 → c ≠ '[' ∧ c ≠ '{') := by
  cases j with
  | null => exact ⟨_, _, rfl, by decide⟩
  | bool b => cases b <;> exact ⟨_, _, rfl, by decide⟩
  | integer i =>
    obtain ⟨c, ds, hds, hc⟩ := exists_integerText_cons i
    have hother : ∀ d, d ≠ '-' → d.isDigit = false → c ≠ d := by
      rintro d hminus hdigit rfl
      rcases hc with hc | hc
      · exact hminus hc
      · rw [hdigit] at hc
        cases hc
    refine ⟨c, ds, by rw [chars, hds], ?_, hother ']' (by decide) (by decide), fun _ =>
      ⟨hother '[' (by decide) (by decide), hother '{' (by decide) (by decide)⟩⟩
    simp only [isSpace, decide_eq_false_iff_not, not_or]
    exact ⟨hother ' ' (by decide) (by decide), hother '\n' (by decide) (by decide),
      hother '\t' (by decide) (by decide), hother '\r' (by decide) (by decide)⟩
  | float x => exact h.elim
  | string s =>
    exact ⟨'"', _, by rw [chars, stringText]; rfl, by decide, by decide, fun _ => by decide⟩
  | array items => exact ⟨_, _, by rw [chars]; rfl, by decide, by decide, fun h => by cases h⟩
  | object entries => exact ⟨_, _, by rw [chars]; rfl, by decide, by decide, fun h => by cases h⟩

theorem beginsItem_chars {j : Json} (h : j.Exact) : BeginsItem j.chars := by
  obtain ⟨c, ds, hds, hspace, hclose, -⟩ := exists_chars_cons h
  exact ⟨c, ds, hds, hspace, hclose⟩

theorem readScalar_chars {j : Json} (h : j.Exact) (hscalar : j.nesting = 0) {rest : List Char}
    (hrest : EndsNumber rest) : readScalar .strict (j.chars ++ rest) = .ok (j, rest) := by
  cases j with
  | null =>
    have hword := readWord_append ['u', 'l', 'l'] rest
    show (readWord ['u', 'l', 'l'] (['u', 'l', 'l'] ++ rest)).map _ = _
    rw [hword]
    rfl
  | bool b =>
    cases b with
    | true =>
      have hword := readWord_append ['r', 'u', 'e'] rest
      show (readWord ['r', 'u', 'e'] (['r', 'u', 'e'] ++ rest)).map _ = _
      rw [hword]
      rfl
    | false =>
      have hword := readWord_append ['a', 'l', 's', 'e'] rest
      show (readWord ['a', 'l', 's', 'e'] (['a', 'l', 's', 'e'] ++ rest)).map _ = _
      rw [hword]
      rfl
  | integer i =>
    rw [Exact] at h
    rw [chars]
    exact readScalar_integerText h.1 h.2 hrest
  | float x => exact h.elim
  | string s =>
    rw [chars, stringText_append]
    show (readString .strict _).map _ = _
    rw [readString_stringText]
    rfl
  | array items => cases hscalar
  | object entries => cases hscalar

theorem readValue_scalar {rigour : Rigour} {depth : Nat} {c : Char} {cs : List Char}
    (hspace : isSpace c = false) (hbracket : c ≠ '[') (hbrace : c ≠ '{') :
    readValue rigour depth (c :: cs) = readScalar rigour (c :: cs) := by
  cases depth with
  | zero => rw [readValue, skipSpaces_cons hspace]
  | succ depth =>
    rw [readValue, skipSpaces_cons hspace]
    split
    · rename_i heq
      exact absurd (List.cons.inj heq).1 hbracket
    · rename_i heq
      exact absurd (List.cons.inj heq).1 hbrace
    · rfl

theorem readValue_scalarChars {j : Json} (h : j.Exact) (hscalar : j.nesting = 0) (depth : Nat)
    {rest : List Char} (hrest : EndsNumber rest) :
    readValue .strict depth (j.chars ++ rest) = .ok (j, rest) := by
  obtain ⟨c, ds, hds, hspace, -, hother⟩ := exists_chars_cons h
  obtain ⟨hbracket, hbrace⟩ := hother hscalar
  have hread := readScalar_chars h hscalar hrest
  rw [hds, List.cons_append] at hread ⊢
  rw [readValue_scalar hspace hbracket hbrace, hread]

theorem readValue_array {rigour : Rigour} {depth : Nat} {js : List Json}
    (h : ∀ j ∈ js, ReadsItem (readValue rigour depth) (chars j) j) (rest : List Char) :
    readValue rigour (depth + 1) (chars (.array js) ++ rest) = .ok (.array js, rest) := by
  have hread := readArray_listItems h rest
  rw [chars, itemsChars_eq]
  simp only [List.cons_append, List.append_assoc, List.nil_append]
  rw [readValue, skipSpaces_cons (by decide)]
  show (readArray (readValue rigour depth) (listItems chars js ++ ']' :: rest)).map _ = _
  rw [hread]
  rfl

theorem readValue_object {rigour : Rigour} {depth : Nat} {es : List (String × Json)}
    (h : ∀ e ∈ es, ∀ rest, EndsItem rest →
      readValue rigour depth (chars e.2 ++ rest) = .ok (e.2, rest)) (rest : List Char) :
    readValue rigour (depth + 1) (chars (.object es) ++ rest) = .ok (.object es, rest) := by
  have hlimit : es.length < (listItems entryChars es ++ '}' :: rest).length + 1 := by
    have := length_le_listItems entryChars es
    rw [List.length_append, List.length_cons]
    omega
  have hread : readEntries rigour (readValue rigour depth) _ true _ = .ok (es, rest) :=
    readEntries_listItems h hlimit rest
  rw [chars, entriesChars_eq]
  simp only [List.cons_append, List.append_assoc, List.nil_append]
  rw [readValue, skipSpaces_cons (by decide)]
  show (readEntries rigour (readValue rigour depth)
    ((listItems entryChars es ++ '}' :: rest).length + 1) true
    (listItems entryChars es ++ '}' :: rest)).map _ = _
  rw [hread]
  rfl

/-- **What is written is read back**, by a reader that goes deep enough. -/
theorem readValue_chars {j : Json} {depth : Nat} (h : j.Exact) (hdepth : j.nesting ≤ depth)
    {rest : List Char} (hrest : EndsNumber rest) :
    readValue .strict depth (j.chars ++ rest) = .ok (j, rest) := by
  induction depth generalizing j rest with
  | zero => exact readValue_scalarChars h (by omega) 0 hrest
  | succ depth ih =>
    cases j with
    | array js =>
      rw [Exact, allExact_iff] at h
      have hjs : ∀ j ∈ js, j.nesting ≤ depth := by
        rw [nesting] at hdepth
        exact nestingItems_le_iff.1 (by omega)
      exact readValue_array (fun j hj => ⟨beginsItem_chars (h j hj), fun rest hrest =>
        ih (h j hj) (hjs j hj) hrest.endsNumber⟩) rest
    | object es =>
      rw [Exact, entriesExact_iff] at h
      have hes : ∀ e ∈ es, e.2.nesting ≤ depth := by
        rw [nesting] at hdepth
        exact nestingEntries_le_iff.1 (by omega)
      exact readValue_object (fun e he rest hrest =>
        ih (h e he) (hes e he) hrest.endsNumber) rest
    | _ => exact readValue_scalarChars h rfl _ hrest

end Stencil.Json
