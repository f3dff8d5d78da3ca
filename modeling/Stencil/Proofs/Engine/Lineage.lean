import Stencil.Proofs.Engine.Session
import Stencil.Proofs.Helper.Registry

/-!
# Families in a history

What the operations of a program say about its engines and templates, with no look at the session
that carries them out: which of them are of one family (`Lineage`), which helpers a family has, as a
map from names (`helpersOf`), and what an operation on the family answers then (`Lineage.Answers`).
-/

namespace Stencil

/-! ## Histories -/

/-- A family, by how many were begun before it, and the settings that it was begun with. -/
structure Family where
  number : Nat
  config : Config

def Family.engine (f : Family) : Engine :=
  .ofConfig f.number f.config

/-- How many families there are, and the family of every engine and of every template. -/
structure Lineage where
  count : Nat
  engines : List Family
  templates : List (Family × Template)

section Histories

variable {σ : Type}

namespace Lineage

def start : Lineage :=
  ⟨0, [], []⟩

/-- The families of all engines and templates. -/
def families (l : Lineage) : List Family :=
  l.engines ++ l.templates.map (·.1)

theorem mem_families_keepEngine {l : Lineage} {f g : Family} {n : Nat}
    (h : g ∈ families ⟨n, l.engines ++ [f], l.templates⟩) : g ∈ l.families ∨ g = f := by
  simp only [families, List.mem_append, List.mem_singleton] at h ⊢
  tauto

theorem mem_families_keep {l : Lineage} {f g : Family} {tree : Template} {n : Nat}
    (h : g ∈ families ⟨n, l.engines, l.templates ++ [(f, tree)]⟩) : g ∈ l.families ∨ g = f := by
  simp only [families, List.map_append, List.mem_append, List.map_singleton,
    List.mem_singleton] at h ⊢
  tauto

/-- Only a creation begins a family. A copy is of the family of what was copied, and a template of
that of its engine. -/
def step (l : Lineage) : Operation σ → Lineage
  | .create config =>
    { l with count := l.count + 1, engines := l.engines ++ [⟨l.count, config⟩] }
  | .copy i => { l with engines := l.engines ++ l.engines[i]?.toList }
  | .compile i source =>
    match Template.parse source with
    | .ok tree => { l with templates := l.templates ++ (l.engines[i]?.map (·, tree)).toList }
    | .error _ => l
  | .bind i tree => { l with templates := l.templates ++ (l.engines[i]?.map (·, tree)).toList }
  | .copyTemplate j => { l with templates := l.templates ++ l.templates[j]?.toList }
  | _ => l

def after (l : Lineage) (ops : List (Operation σ)) : Lineage :=
  ops.foldl step l

/-- The family that an operation is on, or the one that it begins. -/
def family? (l : Lineage) : Operation σ → Option Family
  | .create config => some ⟨l.count, config⟩
  | .copy i => l.engines[i]?
  | .register i _ _ => l.engines[i]?
  | .registerBuiltins i => l.engines[i]?
  | .remove i _ => l.engines[i]?
  | .compile i _ => l.engines[i]?
  | .bind i _ => l.engines[i]?
  | .copyTemplate j => l.templates[j]?.map (·.1)
  | .has i _ => l.engines[i]?
  | .names i => l.engines[i]?
  | .run i _ _ => l.engines[i]?
  | .render j _ => l.templates[j]?.map (·.1)

/-- The operation is on the family with this number. -/
def On (l : Lineage) (n : Nat) (op : Operation σ) : Prop :=
  (l.family? op).map (·.number) = some n

instance (l : Lineage) (n : Nat) (op : Operation σ) : Decidable (l.On n op) :=
  inferInstanceAs (Decidable (_ = _))

/-- Those of the operations that are on the family with this number. -/
def own (l : Lineage) (n : Nat) : List (Operation σ) → List (Operation σ)
  | [] => []
  | op :: ops => if l.On n op then op :: (l.step op).own n ops else (l.step op).own n ops

theorem after_cons (l : Lineage) (op : Operation σ) (ops : List (Operation σ)) :
    l.after (op :: ops) = (l.step op).after ops :=
  rfl

theorem after_concat (l : Lineage) (ops : List (Operation σ)) (op : Operation σ) :
    l.after (ops ++ [op]) = (l.after ops).step op :=
  List.foldl_concat ..

theorem own_concat (l : Lineage) (n : Nat) (ops : List (Operation σ)) (op : Operation σ) :
    l.own n (ops ++ [op]) =
      if (l.after ops).On n op then l.own n ops ++ [op] else l.own n ops := by
  -- for every lineage, since the operations behind `first` go on from the one it leaves
  induction ops generalizing l with
  | nil => rfl
  | cons first ops ih =>
    rw [List.cons_append, own, own, ih, after_cons]
    split <;> split <;> rfl

theorem step_of_none {l : Lineage} {op : Operation σ} (h : l.family? op = none) :
    l.step op = l := by
  cases op with
  | create config => cases h
  | copy i =>
    have hnone : l.engines[i]? = none := h
    simp only [step, hnone, Option.toList_none, List.append_nil]
  | bind i tree =>
    have hnone : l.engines[i]? = none := h
    simp only [step, hnone, Option.map_none, Option.toList_none, List.append_nil]
  | compile i source =>
    have hnone : l.engines[i]? = none := h
    simp only [step, hnone, Option.map_none, Option.toList_none, List.append_nil]
    split <;> rfl
  | copyTemplate j =>
    have hnone : l.templates[j]? = none := Option.map_eq_none_iff.1 h
    simp only [step, hnone, Option.toList_none, List.append_nil]
  | _ => rfl

end Lineage

/-- What an operation makes of the helpers of its family. -/
def Operation.change (helpers : String → Option (Helper σ)) :
    Operation σ → String → Option (Helper σ)
  | .create config => if config.builtinHelpers then Builtin.over fun _ => none else fun _ => none
  | .register _ name helper => Function.update helpers name (some helper)
  | .registerBuiltins _ => Builtin.over helpers
  | .remove _ name => Function.update helpers name none
  | _ => helpers

/-- The helpers of the family with this number. -/
def helpersOf (ops : List (Operation σ)) (n : Nat) : String → Option (Helper σ) :=
  (Lineage.start.own n ops).foldl Operation.change fun _ => none

theorem helpersOf_concat (ops : List (Operation σ)) (op : Operation σ) (n : Nat) :
    helpersOf (ops ++ [op]) n =
      if (Lineage.start.after ops).On n op then op.change (helpersOf ops n)
      else helpersOf ops n := by
  unfold helpersOf
  rw [Lineage.own_concat]
  split
  · exact List.foldl_concat ..
  · rfl

/-! ## Answers -/

/-- A rendering with the settings of the family and with helpers that are these. -/
def Family.Renders (f : Family) (helpers : String → Option (Helper σ)) (tree : Template)
    (context : Value) (state : σ) (answer : Answer) (last : σ) : Prop :=
  ∃ registry : Registry σ, registry.get? = helpers ∧ ∃ result, answer = .rendered result ∧
    Render.runFrom (tree.render ⟨registry, f.config.denylist⟩ context) state = (result, last)

/-- What an operation on a family answers if the family has these helpers, and the state that it
leaves. -/
def Lineage.Answers (l : Lineage) (f : Family) (helpers : String → Option (Helper σ)) (state : σ)
    (answer : Answer) (last : σ) : Operation σ → Prop
  | .remove _ name => answer = .flag (helpers name).isSome ∧ last = state
  | .has _ name => answer = .flag (helpers name).isSome ∧ last = state
  | .names _ =>
    (∃ names, answer = .names names ∧
      names.Pairwise (fun name name' => Text.bytes name < Text.bytes name') ∧
      ∀ name, name ∈ names ↔ (helpers name).isSome = true) ∧ last = state
  | .compile _ source =>
    (match Template.parse source with
      | .ok _ => answer = .done
      | .error error => answer = .invalid error) ∧ last = state
  | .run _ tree context => f.Renders helpers tree context state answer last
  | .render j context =>
    ∃ t, l.templates[j]? = some t ∧ f.Renders helpers t.2 context state answer last
  | _ => answer = .done ∧ last = state

end Histories

end Stencil
