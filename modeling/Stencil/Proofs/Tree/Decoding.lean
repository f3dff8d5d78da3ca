import Stencil.Proofs.Json.Nesting
import Stencil.Proofs.Tree.Encoding

/-!
# Decoded trees

Decoding never deepens: what a tree is encoded as nests no deeper than the document it was decoded
from, in whatever form that was written (`Expression.nesting_le_of_ofJson?`,
`Statement.nesting_le_of_ofFields?`).
-/

namespace Stencil

open Stencil.Json

/-! ## Parts of nodes -/

theorem exists_mem_of_mapM {α β : Type} {f : α → Option β} {as : List α} {bs : List β}
    (h : as.mapM f = some bs) {b : β} (hb : b ∈ bs) : ∃ a ∈ as, f a = some b := by
  induction as generalizing bs with
  | nil =>
    rw [List.mapM_nil] at h
    obtain rfl := Option.some.inj h
    cases hb
  | cons a as ih =>
    rw [List.mapM_cons] at h
    obtain ⟨b', hb', h⟩ := Option.bind_eq_some_iff.1 h
    obtain ⟨bs', hbs', heq⟩ := Option.bind_eq_some_iff.1 h
    obtain rfl := Option.some.inj heq
    rcases List.mem_cons.1 hb with rfl | hb
    · exact ⟨a, List.mem_cons_self, hb'⟩
    · obtain ⟨a', ha', hfa'⟩ := ih hbs' hb
      exact ⟨a', List.mem_cons_of_mem _ ha', hfa'⟩

theorem nesting_lt_of_mem_items {j : Json} {js : List Json} (h : j ∈ js) :
    j.nesting < (Json.array js).nesting := by
  have := nestingItems_le_iff.1 (Nat.le_refl (nestingItems js)) j h
  rw [nesting]
  omega

theorem nesting_lt_of_mem_entries {key : String} {j : Json} {es : List (String × Json)}
    (h : (key, j) ∈ es) : j.nesting < (Json.object es).nesting := by
  have : j.nesting ≤ nestingEntries es := nestingEntries_le_iff.1 (Nat.le_refl _) _ h
  rw [nesting]
  omega

theorem nesting_le_of_splitNode? {j rest : Json} {tag : Tag}
    (h : splitNode? j = some (tag, rest)) : 1 ≤ rest.nesting ∧ rest.nesting ≤ j.nesting := by
  unfold splitNode? at h
  split at h
  · rename_i entries
    split at h
    · obtain ⟨tag', -, heq⟩ := Option.map_eq_some_iff.1 h
      obtain ⟨-, rfl⟩ := Prod.mk.inj heq
      have hle : nestingEntries (entries.filter (·.1 ≠ kindKey)) ≤ nestingEntries entries := by
        refine nestingEntries_le_iff.2 fun e he => ?_
        exact nestingEntries_le_iff.1 (Nat.le_refl _) e (List.mem_filter.1 he).1
      rw [nesting, nesting]
      omega
    · cases h
  · rename_i j items
    obtain ⟨tag', -, heq⟩ := Option.map_eq_some_iff.1 h
    obtain ⟨-, rfl⟩ := Prod.mk.inj heq
    rw [nesting, nesting, nestingItems]
    omega
  · cases h

/-- The values of fields stand in a container. -/
theorem nesting_lt_of_fields? {names : List String} {rest j : Json} {values : List (Option Json)}
    (h : fields? names rest = some values) (hj : some j ∈ values) : j.nesting < rest.nesting := by
  unfold fields? at h
  split at h
  · rename_i entries
    obtain ⟨name, -, hname⟩ := exists_mem_of_mapM h hj
    split at hname
    · cases hname
    · rename_i key k hfilter
      obtain rfl := Option.some.inj (Option.some.inj hname)
      have hmem : (key, k) ∈ entries.filter (·.1 = name) := by
        rw [hfilter]
        exact List.mem_singleton_self _
      exact nesting_lt_of_mem_entries (List.mem_filter.1 hmem).1
    · cases hname
  · rename_i items
    split at h
    · obtain rfl := Option.some.inj h
      obtain ⟨i, -, hi⟩ := List.mem_map.1 hj
      exact nesting_lt_of_mem_items (List.mem_of_getElem? hi)
    · cases h
  · cases h

theorem exists_items_of_list? {α : Type} {item : Json → Option α} {j : Json} {as : List α}
    (h : list? item j = some as) : ∃ items, j = .array items ∧ items.mapM item = some as := by
  unfold list? at h
  split at h
  · exact ⟨_, rfl, h⟩
  · cases h

theorem nesting_le_of_list? {α : Type} {item : Json → Option α} {write : α → Json} {j : Json}
    {as : List α} (h : list? item j = some as)
    (hitem : ∀ k a, item k = some a → (write a).nesting ≤ k.nesting) :
    (Json.array (as.map write)).nesting ≤ j.nesting := by
  obtain ⟨items, rfl, hmap⟩ := exists_items_of_list? h
  have hle : nestingItems (as.map write) ≤ nestingItems items := by
    refine nestingItems_map_le_iff.2 fun a ha => ?_
    obtain ⟨k, hk, hka⟩ := exists_mem_of_mapM hmap ha
    exact Nat.le_trans (hitem k a hka) (nestingItems_le_iff.1 (Nat.le_refl _) k hk)
  rw [nesting, nesting]
  omega

/-! ## Expressions -/

theorem Expression.nesting_le_of_ofJsonWithin? {depth : Nat} {j : Json} {e : Expression}
    (h : Expression.ofJsonWithin? depth j = some e) : e.toJson.nesting ≤ j.nesting := by
  induction depth generalizing j e with
  | zero => cases h
  | succ depth ih =>
    rw [Expression.ofJsonWithin?] at h
    obtain ⟨⟨tag, rest⟩, hsplit, h⟩ := Option.bind_eq_some_iff.1 h
    obtain ⟨-, hrest⟩ := nesting_le_of_splitNode? hsplit
    obtain ⟨place, -, h⟩ := Option.bind_eq_some_iff.1 h
    split at h
    · obtain ⟨values, hvalues, h⟩ := Option.bind_eq_some_iff.1 h
      split at h
      · have hvalue := nesting_lt_of_fields? hvalues List.mem_cons_self
        obtain ⟨value, -, heq⟩ := Option.bind_eq_some_iff.1 h
        obtain rfl := Option.some.inj heq
        rw [Expression.toJson, nesting_node]
        simp only [nestingEntries, nesting, Nat.max_zero]
        omega
      · cases h
    · obtain ⟨values, hvalues, h⟩ := Option.bind_eq_some_iff.1 h
      split at h
      · have hvalue := nesting_lt_of_fields? hvalues List.mem_cons_self
        obtain ⟨segments, hsegments, heq⟩ := Option.bind_eq_some_iff.1 h
        obtain rfl := Option.some.inj heq
        have hle : (Json.array (segments.map .string)).nesting ≤ _ :=
          nesting_le_of_list? hsegments fun _ _ _ => Nat.zero_le _
        rw [Expression.toJson, nesting_node]
        simp only [nestingEntries, Nat.max_zero]
        omega
      · cases h
    · obtain ⟨values, hvalues, h⟩ := Option.bind_eq_some_iff.1 h
      split at h
      · have hvalue := nesting_lt_of_fields? hvalues
          (List.mem_cons_of_mem _ (List.mem_singleton_self _))
        obtain ⟨name, -, h⟩ := Option.bind_eq_some_iff.1 h
        obtain ⟨arguments, harguments, heq⟩ := Option.bind_eq_some_iff.1 h
        obtain rfl := Option.some.inj heq
        have hle : (Json.array (arguments.map Expression.toJson)).nesting ≤ _ :=
          nesting_le_of_list? harguments fun _ _ hk => ih hk
        rw [Expression.toJson, nesting_node, Expression.listToJson_eq]
        simp only [nestingEntries, nesting, Nat.max_zero, Nat.zero_max] at hle ⊢
        omega
      · cases h

theorem Expression.nesting_le_of_ofJson? {j : Json} {e : Expression}
    (h : Expression.ofJson? j = some e) : e.toJson.nesting ≤ j.nesting := by
  unfold Expression.ofJson? at h
  exact Expression.nesting_le_of_ofJsonWithin? h

/-! ## Statements -/

theorem nestingEntries_elseToJson_le {nested : Json → Option Statement}
    (hnested : ∀ k s, nested k = some s → s.toJson.nesting ≤ k.nesting) {field : Option Json}
    {elseBody : Option (List Statement)} (h : optionalList? nested field = some elseBody)
    {n : Nat} (hfield : ∀ j, field = some j → j.nesting ≤ n) :
    nestingEntries (Statement.elseToJson elseBody) ≤ n := by
  unfold optionalList? at h
  split at h
  · obtain rfl := Option.some.inj h
    exact Nat.zero_le _
  · obtain rfl := Option.some.inj h
    exact Nat.zero_le _
  · rename_i j _
    obtain ⟨ss, hss, rfl⟩ := Option.map_eq_some_iff.1 h
    have hle : (Json.array (ss.map Statement.toJson)).nesting ≤ _ :=
      nesting_le_of_list? hss hnested
    have hj := hfield j rfl
    rw [Statement.elseToJson, Statement.listToJson_eq]
    simp only [nestingEntries, Nat.max_zero]
    omega

/-- A block is a container around its parts. -/
theorem Statement.nesting_block_le {e : Expression} {negated : Bool} {body : List Statement}
    {elseBody : Option (List Statement)} {n : Nat} (he : e.toJson.nesting < n)
    (hbody : (Json.array (body.map Statement.toJson)).nesting < n)
    (helse : nestingEntries (Statement.elseToJson elseBody) < n) :
    (Statement.block e negated body elseBody).toJson.nesting ≤ n := by
  have hflag : (Json.bool negated).nesting = 0 := rfl
  rw [Statement.toJson, nesting_node, Statement.listToJson_eq]
  simp only [List.cons_append, List.nil_append, nestingEntries]
  rw [hflag]
  omega

/-- The fields of a statement nest no deeper than those it was decoded from. -/
theorem Statement.nesting_le_of_ofFields? {nested : Json → Option Statement}
    (hnested : ∀ k s, nested k = some s → s.toJson.nesting ≤ k.nesting) {tag : Tag} {rest : Json}
    {s : Statement} (h : Statement.ofFields? nested tag rest = some s) (hrest : 1 ≤ rest.nesting) :
    s.toJson.nesting ≤ rest.nesting := by
  unfold Statement.ofFields? at h
  split at h
  · obtain ⟨values, -, h⟩ := Option.bind_eq_some_iff.1 h
    split at h
    · obtain ⟨value, -, heq⟩ := Option.bind_eq_some_iff.1 h
      obtain rfl := Option.some.inj heq
      exact hrest
    · cases h
  · obtain ⟨values, -, h⟩ := Option.bind_eq_some_iff.1 h
    split at h
    · obtain ⟨value, -, heq⟩ := Option.bind_eq_some_iff.1 h
      obtain rfl := Option.some.inj heq
      exact hrest
    · cases h
  · obtain ⟨values, hvalues, h⟩ := Option.bind_eq_some_iff.1 h
    split at h
    · have hvalue := nesting_lt_of_fields? hvalues List.mem_cons_self
      obtain ⟨e, he, heq⟩ := Option.bind_eq_some_iff.1 h
      obtain rfl := Option.some.inj heq
      have hle := Expression.nesting_le_of_ofJson? he
      rw [Statement.toJson, nesting_node]
      simp only [nestingEntries, Nat.max_zero]
      omega
    · cases h
  · obtain ⟨values, hvalues, h⟩ := Option.bind_eq_some_iff.1 h
    split at h
    · rename_i e negated body elseBody
      have he := nesting_lt_of_fields? hvalues List.mem_cons_self
      have hbody := nesting_lt_of_fields? hvalues
        (List.mem_cons_of_mem _ (List.mem_cons_of_mem _ List.mem_cons_self))
      have helse : ∀ j, elseBody = some j → j.nesting ≤ rest.nesting - 1 := by
        rintro j rfl
        have := nesting_lt_of_fields? (j := j) hvalues (by simp)
        omega
      obtain ⟨e', he', h⟩ := Option.bind_eq_some_iff.1 h
      obtain ⟨negated', -, h⟩ := Option.bind_eq_some_iff.1 h
      obtain ⟨body', hbody', h⟩ := Option.bind_eq_some_iff.1 h
      obtain ⟨elseBody', helse', heq⟩ := Option.bind_eq_some_iff.1 h
      obtain rfl := Option.some.inj heq
      have helseEntries := nestingEntries_elseToJson_le hnested helse' helse
      apply Statement.nesting_block_le
      · exact Nat.lt_of_le_of_lt (Expression.nesting_le_of_ofJson? he') he
      · exact Nat.lt_of_le_of_lt (nesting_le_of_list? hbody' hnested) hbody
      · omega
    · cases h
  · unfold Statement.ofUnknown? at h
    split at h
    · cases h
    · obtain rfl := Option.some.inj h
      exact hrest

theorem Statement.nesting_le_of_ofJsonWithin? {depth : Nat} {j : Json} {s : Statement}
    (h : Statement.ofJsonWithin? depth j = some s) : s.toJson.nesting ≤ j.nesting := by
  induction depth generalizing j s with
  | zero => cases h
  | succ depth ih =>
    rw [Statement.ofJsonWithin?] at h
    obtain ⟨⟨tag, rest⟩, hsplit, h⟩ := Option.bind_eq_some_iff.1 h
    obtain ⟨hcontainer, hrest⟩ := nesting_le_of_splitNode? hsplit
    have hle := Statement.nesting_le_of_ofFields? (fun _ _ hk => ih hk) h hcontainer
    omega

/-- A statement that is read from a text fits where it was read. -/
theorem Statement.nesting_le_of_reader {depth : Nat} {cs rest : List Char} {s : Statement}
    (h : Statement.reader depth cs = .ok (s, rest)) : s.toJson.nesting ≤ depth := by
  unfold Statement.reader at h
  obtain ⟨⟨⟨name, j⟩, cs₁⟩, hnode, h⟩ := bind_eq_ok.1 h
  obtain ⟨hcontainer, hdepth⟩ := nesting_le_of_readNode hnode
  dsimp only at h
  split at h
  · rename_i s' hs
    obtain ⟨rfl, -⟩ := Prod.mk.inj (Except.ok.inj h)
    have hle := Statement.nesting_le_of_ofFields?
      (fun _ _ hk => Statement.nesting_le_of_ofJsonWithin? hk) hs hcontainer
    omega
  · cases h

end Stencil
