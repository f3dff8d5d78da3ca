import Mathlib.Logic.Function.Basic
import Stencil.Helper.Builtin
import Stencil.Proofs.Entries
import Stencil.Proofs.Text.ByteOrder

/-!
# The helpers of a registry as a map

What a registry holds under every name after each of its operations, and its names: they are those
that hold a helper, and increase by their bytes.
-/

namespace Stencil

namespace Registry

variable {σ : Type}

theorem get?_register (r : Registry σ) (name : String) (helper : Helper σ) :
    (r.register name helper).get? = Function.update r.get? name (some helper) := by
  funext other
  rw [Function.update_apply]
  exact Entries.lookup_insert name other helper r.entries

theorem get?_remove (r : Registry σ) (name : String) :
    (r.remove name).get? = Function.update r.get? name none := by
  funext other
  rw [Function.update_apply]
  exact Entries.lookup_erase name other r.entries

theorem mem_names_iff {r : Registry σ} {name : String} :
    name ∈ r.names ↔ (r.get? name).isSome = true :=
  Entries.mem_keys_iff

theorem names_pairwise_lt (r : Registry σ) :
    r.names.Pairwise fun name name' => Text.bytes name < Text.bytes name' :=
  List.pairwise_map.2 (r.sorted.imp Text.bytes_lt_bytes)

end Registry

/-! ## Ready helpers -/

/-- The ready helpers under their names, and these helpers under all others. -/
def Builtin.over {σ : Type} (helpers : String → Option (Helper σ)) (name : String) :
    Option (Helper σ) :=
  match Builtin.ofName? name with
  | some b => some b.helper
  | none => helpers name

theorem Builtin.all_pairwise_ne : Builtin.all.Pairwise (·.name ≠ ·.name) := by
  decide

namespace Registry

variable {σ : Type}

/-- Of helpers whose names differ, it does not matter which is added last. -/
theorem get?_foldl_register {bs : List Builtin} (hne : bs.Pairwise (·.name ≠ ·.name))
    (r : Registry σ) (name : String) :
    (bs.foldl (fun r b => r.register b.name b.helper) r).get? name =
      match bs.find? (·.name = name) with
      | some b => some b.helper
      | none => r.get? name := by
  induction bs generalizing r with
  | nil => rfl
  | cons b bs ih =>
    obtain ⟨hb, hbs⟩ := List.pairwise_cons.1 hne
    rw [List.foldl_cons, ih hbs, get?_register, Function.update_apply]
    by_cases hname : b.name = name
    · have hnone : bs.find? (·.name = name) = none :=
        List.find?_eq_none.2 fun b' hb' => by
          simpa [← hname] using (hb b' hb').symm
      rw [hnone, List.find?_cons_of_pos (by simpa using hname), if_pos hname.symm]
    · rw [List.find?_cons_of_neg (by simpa using hname), if_neg (Ne.symm hname)]

theorem get?_registerBuiltins (r : Registry σ) : r.registerBuiltins.get? = Builtin.over r.get? := by
  funext name
  exact get?_foldl_register Builtin.all_pairwise_ne r name

end Registry

end Stencil
