import Stencil.Entries

/-!
# Looking up entries

What is found under a key after an entry has been inserted or erased, or after all values have been
changed.
-/

namespace Stencil.Entries

variable {α β : Type}

theorem lookup_cons (key : String) (e : String × α) (es : List (String × α)) :
    (e :: es).lookup key = if key = e.1 then some e.2 else es.lookup key := by
  rw [List.lookup_cons]
  by_cases h : key = e.1
  · rw [if_pos h, beq_iff_eq.2 h]
  · rw [if_neg h, beq_false_of_ne h]

theorem lookup_insert (key other : String) (a : α) (es : List (String × α)) :
    (insert key a es).lookup other = if other = key then some a else es.lookup other := by
  induction es with
  | nil => rw [insert, lookup_cons]
  | cons e es ih =>
    rw [insert]
    split
    · rw [lookup_cons]
    split
    · rename_i hkey
      rw [lookup_cons, lookup_cons, ← hkey]
      split <;> rfl
    · rename_i hne
      rw [lookup_cons, lookup_cons, ih]
      by_cases h : other = e.1
      · rw [if_pos h, if_pos h, if_neg fun heq => hne (heq.symm.trans h)]
      · rw [if_neg h, if_neg h]

theorem lookup_erase (key other : String) (es : List (String × α)) :
    (erase key es).lookup other = if other = key then none else es.lookup other := by
  unfold erase
  induction es with
  | nil => rw [List.filter_nil, List.lookup_nil, ite_self]
  | cons e es ih =>
    by_cases he : e.1 = key
    · rw [List.filter_cons_of_neg (by simpa using he), ih, lookup_cons, he]
      split <;> rfl
    · rw [List.filter_cons_of_pos (by simpa using he), lookup_cons, lookup_cons, ih]
      by_cases h : other = e.1
      · rw [if_pos h, if_pos h, if_neg fun heq => he (h.symm.trans heq)]
      · rw [if_neg h, if_neg h]

theorem lookup_map (f : String → α → β) (key : String) (es : List (String × α)) :
    (es.map fun e => (e.1, f e.1 e.2)).lookup key = (es.lookup key).map (f key) := by
  induction es with
  | nil => rfl
  | cons e es ih =>
    rw [List.map_cons, lookup_cons, lookup_cons, ih]
    by_cases h : key = e.1
    · rw [if_pos h, if_pos h, h, Option.map_some]
    · rw [if_neg h, if_neg h]

theorem mem_keys_iff {key : String} {es : List (String × α)} :
    key ∈ es.map (·.1) ↔ (es.lookup key).isSome = true := by
  rw [List.lookup_isSome_iff, List.mem_map]
  exact exists_congr fun e => and_congr_right fun _ => by rw [beq_iff_eq, eq_comm]

/-! ## Entries that are sorted already -/

theorem insert_of_lt {key : String} {es : List (String × α)} (h : ∀ e ∈ es, e.1 < key) (a : α) :
    insert key a es = es ++ [(key, a)] := by
  induction es with
  | nil => rfl
  | cons e es ih =>
    obtain ⟨he, hes⟩ := List.forall_mem_cons.1 h
    have hne : key ≠ e.1 := fun heq => String.lt_irrefl _ (heq ▸ he)
    rw [insert, if_neg (String.lt_asymm he), if_neg hne, ih hes, List.cons_append]

theorem ofList_of_sorted {es : List (String × α)} (h : Sorted es) : ofList es = es := by
  suffices ∀ acc, Sorted (acc ++ es) →
      es.foldl (fun sorted e => insert e.1 e.2 sorted) acc = acc ++ es from this [] h
  clear h
  induction es with
  | nil => simp
  | cons e es ih =>
    intro acc hsorted
    have hlt : ∀ f ∈ acc, f.1 < e.1 := fun f hf =>
      (List.pairwise_append.1 hsorted).2.2 f hf e List.mem_cons_self
    rw [List.append_cons] at hsorted
    rw [List.foldl_cons, insert_of_lt hlt, ih _ hsorted, ← List.append_cons]

end Stencil.Entries
