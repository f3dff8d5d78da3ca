/-!
# Entries in the order of their keys

A map from texts is a list of entries with strictly increasing keys; texts are ordered by their code
points. Inserting replaces the value of a key that is there.
-/

namespace Stencil.Entries

variable {α : Type}

abbrev Sorted (es : List (String × α)) : Prop :=
  es.Pairwise (·.1 < ·.1)

def insert (key : String) (a : α) : List (String × α) → List (String × α)
  | [] => [(key, a)]
  | e :: es =>
    if key < e.1 then (key, a) :: e :: es
    else if key = e.1 then (key, a) :: es
    else e :: insert key a es

def erase (key : String) (es : List (String × α)) : List (String × α) :=
  es.filter (·.1 ≠ key)

/-- The last entry of a key counts. -/
def ofList (es : List (String × α)) : List (String × α) :=
  es.foldl (fun sorted e => insert e.1 e.2 sorted) []

theorem mem_insert {key : String} {a : α} {e : String × α} {es : List (String × α)}
    (h : e ∈ insert key a es) : e = (key, a) ∨ e ∈ es := by
  induction es with
  | nil => simpa [insert] using h
  | cons f es ih =>
    rw [insert] at h
    split at h
    · simpa using h
    split at h
    · rcases List.mem_cons.1 h with h | h
      · exact .inl h
      · exact .inr (List.mem_cons_of_mem _ h)
    · rcases List.mem_cons.1 h with h | h
      · exact .inr (h ▸ List.mem_cons_self)
      · exact (ih h).imp id (List.mem_cons_of_mem _)

theorem sorted_insert (key : String) (a : α) {es : List (String × α)} (h : Sorted es) :
    Sorted (insert key a es) := by
  induction es with
  | nil => simp [insert]
  | cons f es ih =>
    obtain ⟨hf, hes⟩ := List.pairwise_cons.1 h
    rw [insert]
    split
    · rename_i hlt
      refine List.pairwise_cons.2 ⟨fun e he => ?_, h⟩
      rcases List.mem_cons.1 he with rfl | he
      · exact hlt
      · exact String.lt_trans hlt (hf e he)
    split
    · rename_i heq
      exact List.pairwise_cons.2 ⟨fun e he => heq ▸ hf e he, hes⟩
    · rename_i hlt hne
      refine List.pairwise_cons.2 ⟨fun e he => ?_, ih hes⟩
      rcases mem_insert he with rfl | he
      · exact Classical.not_not.1 fun hge =>
          hne (String.le_antisymm (String.not_lt.1 hge) (String.not_lt.1 hlt))
      · exact hf e he

theorem sorted_erase (key : String) {es : List (String × α)} (h : Sorted es) :
    Sorted (erase key es) :=
  List.Pairwise.filter _ h

theorem sorted_ofList (es : List (String × α)) : Sorted (ofList es) := by
  suffices ∀ acc : List (String × α), Sorted acc →
      Sorted (es.foldl (fun sorted e => insert e.1 e.2 sorted) acc) from this [] .nil
  induction es with
  | nil => exact fun _ h => h
  | cons e es ih => exact fun acc h => ih _ (sorted_insert e.1 e.2 h)

end Stencil.Entries
