import Stencil.Json.Node
import Stencil.Proofs.Json.RoundTrip

/-!
# Nesting of what is read

A reader with a bound on containers gives documents within this bound: `nesting_le_of_readValue`
for values and `nesting_le_of_readNode` for nodes without their kinds.
-/

namespace Stencil.Json

/-! ## Items and entries -/

theorem forall_of_readItems {α : Type} {item : Reader α} {P : α → Prop}
    (hitem : ∀ cs a rest, item cs = .ok (a, rest) → P a) {limit : Nat} {first : Bool}
    {cs rest : List Char} {as : List α} (h : readItems item limit first cs = .ok (as, rest)) :
    ∀ a ∈ as, P a := by
  induction limit generalizing first cs as rest with
  | zero => cases h
  | succ limit ih =>
    rw [readItems] at h
    obtain ⟨next, -, h⟩ := bind_eq_ok.1 h
    cases next with
    | none =>
      obtain ⟨_, -, heq⟩ := bind_eq_ok.1 h
      obtain ⟨rfl, -⟩ := Prod.mk.inj (Except.ok.inj heq)
      intro _ hmem
      cases hmem
    | some cs =>
      obtain ⟨⟨b, cs₁⟩, hb, h⟩ := bind_eq_ok.1 h
      obtain ⟨⟨bs, cs₂⟩, hbs, heq⟩ := bind_eq_ok.1 h
      obtain ⟨rfl, -⟩ := Prod.mk.inj (Except.ok.inj heq)
      intro a ha
      rcases List.mem_cons.1 ha with rfl | ha
      · exact hitem _ _ _ hb
      · exact ih hbs a ha

theorem forall_of_readEntries {rigour : Rigour} {value : Reader Json} {P : Json → Prop}
    (hvalue : ∀ cs j rest, value cs = .ok (j, rest) → P j) {limit : Nat} {first : Bool}
    {cs rest : List Char} {es : List (String × Json)}
    (h : readEntries rigour value limit first cs = .ok (es, rest)) : ∀ e ∈ es, P e.2 := by
  induction limit generalizing first cs es rest with
  | zero => cases h
  | succ limit ih =>
    rw [readEntries] at h
    obtain ⟨next, -, h⟩ := bind_eq_ok.1 h
    cases next with
    | none =>
      obtain ⟨_, -, heq⟩ := bind_eq_ok.1 h
      obtain ⟨rfl, -⟩ := Prod.mk.inj (Except.ok.inj heq)
      intro _ hmem
      cases hmem
    | some next =>
      obtain ⟨key, cs⟩ := next
      obtain ⟨_, -, h⟩ := bind_eq_ok.1 h
      obtain ⟨⟨j, cs₁⟩, hj, h⟩ := bind_eq_ok.1 h
      obtain ⟨⟨more, cs₂⟩, hmore, heq⟩ := bind_eq_ok.1 h
      obtain ⟨rfl, -⟩ := Prod.mk.inj (Except.ok.inj heq)
      intro e he
      rcases List.mem_cons.1 he with rfl | he
      · exact hvalue _ _ _ hj
      · exact ih hmore e he

/-! ## Values -/

/-- A value has at most as many containers inside each other as the reader goes down. -/
theorem nesting_le_of_readValue {rigour : Rigour} {depth : Nat} {cs rest : List Char} {j : Json}
    (h : readValue rigour depth cs = .ok (j, rest)) : j.nesting ≤ depth := by
  induction depth generalizing cs rest j with
  | zero =>
    rw [readValue] at h
    exact Nat.le_of_eq (isScalar_of_readScalar h).nesting
  | succ depth ih =>
    rw [readValue] at h
    split at h
    · obtain ⟨⟨items, cs'⟩, hitems, heq⟩ := map_eq_ok.1 h
      obtain ⟨rfl, -⟩ := Prod.mk.inj heq
      have hle := nestingItems_le_iff.2
        (forall_of_readItems (fun cs a rest hread => ih hread) hitems)
      rw [nesting]
      omega
    · obtain ⟨⟨entries, cs'⟩, hentries, heq⟩ := map_eq_ok.1 h
      obtain ⟨rfl, -⟩ := Prod.mk.inj heq
      have hle := nestingEntries_le_iff.2
        (forall_of_readEntries (fun cs a rest hread => ih hread) hentries)
      rw [nesting]
      omega
    · rw [(isScalar_of_readScalar h).nesting]
      exact Nat.zero_le _

/-! ## Nodes -/

theorem nestingEntries_le_of_readNodeEntries {depth limit : Nat} {first : Bool}
    {kind kind' : Option String} {cs rest : List Char} {es : List (String × Json)}
    (h : readNodeEntries depth limit first kind cs = .ok ((kind', es), rest)) :
    nestingEntries es ≤ depth := by
  induction limit generalizing first kind kind' cs es rest with
  | zero => cases h
  | succ limit ih =>
    rw [readNodeEntries] at h
    obtain ⟨next, -, h⟩ := bind_eq_ok.1 h
    cases next with
    | none =>
      obtain ⟨_, -, heq⟩ := bind_eq_ok.1 h
      obtain ⟨-, rfl⟩ := Prod.mk.inj (Prod.mk.inj (Except.ok.inj heq)).1
      exact Nat.zero_le _
    | some next =>
      obtain ⟨key, cs⟩ := next
      dsimp only at h
      split at h
      · split at h
        · cases h
        · obtain ⟨_, -, h⟩ := bind_eq_ok.1 h
          obtain ⟨_, -, h⟩ := bind_eq_ok.1 h
          exact ih h
      · obtain ⟨_, -, h⟩ := bind_eq_ok.1 h
        obtain ⟨⟨j, cs₁⟩, hj, h⟩ := bind_eq_ok.1 h
        obtain ⟨⟨⟨kind₁, more⟩, cs₂⟩, hmore, heq⟩ := bind_eq_ok.1 h
        obtain ⟨-, rfl⟩ := Prod.mk.inj (Prod.mk.inj (Except.ok.inj heq)).1
        have hvalue := nesting_le_of_readValue hj
        have hrest := ih hmore
        rw [nestingEntries]
        exact Nat.max_le.2 ⟨hvalue, hrest⟩

/-- The fields of a node that has been read are a container within the bound. -/
theorem nesting_le_of_readNode {depth : Nat} {cs rest : List Char} {name : String} {j : Json}
    (h : readNode depth cs = .ok ((name, j), rest)) : 1 ≤ j.nesting ∧ j.nesting ≤ depth := by
  cases depth with
  | zero => cases h
  | succ depth =>
    rw [readNode] at h
    split at h
    · unfold readNodeItems at h
      obtain ⟨next, -, h⟩ := bind_eq_ok.1 h
      cases next with
      | none => cases h
      | some cs₁ =>
        obtain ⟨_, -, h⟩ := bind_eq_ok.1 h
        obtain ⟨⟨items, cs₂⟩, hitems, heq⟩ := bind_eq_ok.1 h
        obtain ⟨-, rfl⟩ := Prod.mk.inj (Prod.mk.inj (Except.ok.inj heq)).1
        have hle := nestingItems_le_iff.2
          (forall_of_readItems (fun _ _ _ hread => nesting_le_of_readValue hread) hitems)
        rw [nesting]
        omega
    · obtain ⟨⟨⟨kind, entries⟩, cs₁⟩, hentries, h⟩ := bind_eq_ok.1 h
      cases kind with
      | none => cases h
      | some kind =>
        obtain ⟨-, rfl⟩ := Prod.mk.inj (Prod.mk.inj (Except.ok.inj h)).1
        have hle := nestingEntries_le_of_readNodeEntries hentries
        rw [nesting]
        omega
    · cases h

end Stencil.Json
