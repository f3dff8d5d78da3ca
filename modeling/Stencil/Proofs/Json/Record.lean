import Stencil.Json.Record
import Stencil.Proofs.Json.RoundTrip

/-!
# Reading records field by field

How a record in object form is read one field further (`readNamed_field`), and that what all
fields keep is kept by reading the record in either form (`readRecord_invariant`).
-/

namespace Stencil.Json

variable {ρ : Type} {fields : List (RecordField ρ)} {depth : Nat}

/-! ## Steps -/

theorem readNamed_field {limit : Nat} {first : Bool} {seen : List String} {r r' : ρ}
    {cs ds rest : List Char} {key : String} {f : RecordField ρ}
    (hkey : nextKey .strict first cs = .ok (some (key, ':' :: ds)))
    (hfield : fields.find? (·.name = key) = some f) (hseen : key ∉ seen)
    (hread : f.read depth r ds = .ok (r', rest)) :
    readNamed depth fields (limit + 1) first seen r cs =
      readNamed depth fields limit false (key :: seen) r' rest := by
  rw [readNamed, hkey, ok_bind]
  simp only [hfield]
  rw [if_neg hseen]
  show (readColon (':' :: ds) >>= _) = _
  rw [readColon_cons, ok_bind, hread, ok_bind]

theorem readNamed_close (limit : Nat) (first : Bool) (seen : List String) (r : ρ)
    (rest : List Char) :
    readNamed depth fields (limit + 1) first seen r ('}' :: rest) = .ok (r, rest) := by
  rw [readNamed, nextKey_close, ok_bind]
  show (closeObject ('}' :: rest) >>= fun cs => .ok (r, cs)) = _
  rw [closeObject_cons, ok_bind]

/-! ## Invariants -/

/-- Reading the field keeps `P`. -/
def RecordField.Keeps (f : RecordField ρ) (depth : Nat) (P : ρ → Prop) : Prop :=
  ∀ r cs r' rest, P r → f.read depth r cs = .ok (r', rest) → P r'

theorem readPositional_invariant {P : ρ → Prop} (hfields : ∀ f ∈ fields, f.Keeps depth P)
    {first : Bool} {r r' : ρ} {cs rest : List Char} (hr : P r)
    (h : readPositional depth fields first r cs = .ok (r', rest)) : P r' := by
  induction fields generalizing first r cs with
  | nil =>
    rw [readPositional] at h
    obtain ⟨_, -, heq⟩ := bind_eq_ok.1 h
    obtain ⟨rfl, -⟩ := Prod.mk.inj (Except.ok.inj heq)
    exact hr
  | cons f fs ih =>
    rw [readPositional] at h
    obtain ⟨next, -, h⟩ := bind_eq_ok.1 h
    cases next with
    | none =>
      obtain ⟨_, -, heq⟩ := bind_eq_ok.1 h
      obtain ⟨rfl, -⟩ := Prod.mk.inj (Except.ok.inj heq)
      exact hr
    | some cs =>
      obtain ⟨⟨r₁, cs₁⟩, hread, h⟩ := bind_eq_ok.1 h
      have hr₁ := hfields f List.mem_cons_self r cs r₁ cs₁ hr hread
      exact ih (fun g hg => hfields g (List.mem_cons_of_mem _ hg)) hr₁ h

theorem readNamed_invariant {P : ρ → Prop} (hfields : ∀ f ∈ fields, f.Keeps depth P)
    {limit : Nat} {first : Bool} {seen : List String} {r r' : ρ} {cs rest : List Char} (hr : P r)
    (h : readNamed depth fields limit first seen r cs = .ok (r', rest)) : P r' := by
  induction limit generalizing first seen r cs with
  | zero => cases h
  | succ limit ih =>
    rw [readNamed] at h
    obtain ⟨next, -, h⟩ := bind_eq_ok.1 h
    cases next with
    | none =>
      obtain ⟨_, -, heq⟩ := bind_eq_ok.1 h
      obtain ⟨rfl, -⟩ := Prod.mk.inj (Except.ok.inj heq)
      exact hr
    | some next =>
      obtain ⟨key, cs⟩ := next
      cases hfind : fields.find? (·.name = key) with
      | none =>
        simp only [hfind] at h
        obtain ⟨_, -, h⟩ := bind_eq_ok.1 h
        obtain ⟨_, -, h⟩ := bind_eq_ok.1 h
        exact ih hr h
      | some f =>
        simp only [hfind] at h
        split at h
        · cases h
        · obtain ⟨_, -, h⟩ := bind_eq_ok.1 h
          obtain ⟨⟨r₁, cs₁⟩, hread, h⟩ := bind_eq_ok.1 h
          exact ih (hfields f (List.mem_of_find?_eq_some hfind) r _ r₁ cs₁ hr hread) h

/-- What every field keeps is kept by reading a record in either form. -/
theorem readRecord_invariant {P : ρ → Prop} (hfields : ∀ f ∈ fields, f.Keeps depth P) {r r' : ρ}
    {cs rest : List Char} (hr : P r)
    (h : readRecord fields r (depth + 1) cs = .ok (r', rest)) : P r' := by
  rw [readRecord] at h
  split at h
  · exact readPositional_invariant hfields hr h
  · exact readNamed_invariant hfields hr h
  · cases h

end Stencil.Json
