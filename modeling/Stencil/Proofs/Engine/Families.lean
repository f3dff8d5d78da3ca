import Mathlib.Data.List.Induction
import Stencil.Proofs.Engine.Lineage

/-!
# Families of engines

`Session.step_after`: all engines and templates of a family have the same helpers, which are what
the operations on this family make of them, one after the other.

`Session.Has` ties a session to the lineage of its history. One step keeps it, and changes the
helpers of the family that it is on (`get?_ofFamily_step`) and of no other
(`ofFamily_step_of_not_on`); the whole history follows from there.
-/

namespace Stencil

/-! ## What a session has in hand -/

section Steps

variable {σ : Type}

/-- The session has the engines and the templates of the lineage. What an engine looks up by itself,
what its evaluator looks up and what its templates look up are the helpers of its family. -/
structure Session.Has (s : Session σ) (l : Lineage) : Prop where
  engines : s.engines = l.engines.map Family.engine
  templates : s.templates = l.templates.map fun t => t.1.engine.bind t.2
  count : s.workspace.registries.length = l.count
  lt_count : ∀ f ∈ l.families, f.number < l.count

namespace Session.Has

variable {s : Session σ} {l : Lineage}

theorem engine? (h : s.Has l) (i : Nat) : s.engines[i]? = l.engines[i]?.map Family.engine := by
  rw [h.engines, List.getElem?_map]

theorem template? (h : s.Has l) (j : Nat) :
    s.templates[j]? = l.templates[j]?.map fun t => t.1.engine.bind t.2 := by
  rw [h.templates, List.getElem?_map]

theorem keepEngine (h : s.Has l) {f : Family} (hf : f.number < l.count) :
    (s.keepEngine f.engine).Has { l with engines := l.engines ++ [f] } where
  engines := by
    rw [List.map_append, ← h.engines]
    rfl
  templates := h.templates
  count := h.count
  lt_count g hg := by
    rcases Lineage.mem_families_keepEngine hg with hg | rfl
    · exact h.lt_count g hg
    · exact hf

theorem keep (h : s.Has l) {f : Family} (hf : f.number < l.count) (tree : Template) :
    (s.keep (f.engine.bind tree)).Has { l with templates := l.templates ++ [(f, tree)] } where
  engines := h.engines
  templates := by
    rw [List.map_append, ← h.templates]
    rfl
  count := h.count
  lt_count g hg := by
    rcases Lineage.mem_families_keep hg with hg | rfl
    · exact h.lt_count g hg
    · exact hf

theorem update (h : s.Has l) (e : Engine) (f : Registry σ → Registry σ) :
    ({ s with workspace := s.workspace.update e f } : Session σ).Has l where
  engines := h.engines
  templates := h.templates
  count := (List.length_modify ..).trans h.count
  lt_count := h.lt_count

theorem rendered (h : s.Has l) (x : Render σ String) : (s.rendered x).2.Has l :=
  ⟨h.engines, h.templates, h.count, h.lt_count⟩

theorem refuses (h : s.Has l) {op : Operation σ} (hnone : l.family? op = none) :
    s.step op = (.refused, s) := by
  cases op with
  | create config => cases hnone
  | copyTemplate j =>
    have hnone : l.templates[j]? = none := Option.map_eq_none_iff.1 hnone
    rw [Session.step, h.template?, hnone]
    rfl
  | render j context =>
    have hnone : l.templates[j]? = none := Option.map_eq_none_iff.1 hnone
    rw [Session.step, h.template?, hnone]
    rfl
  | _ =>
    have hnone : l.engines[_]? = none := hnone
    rw [Session.step, h.engine?, hnone]
    rfl

/-- An operation on an engine goes on with an engine of the family. -/
theorem on_engine (h : s.Has l) {i : Nat} {f : Family} (hf : l.engines[i]? = some f)
    (go : Engine → Answer × Session σ) : s.on s.engines[i]? go = go f.engine := by
  rw [h.engine?, hf]
  rfl

theorem on_template (h : s.Has l) {j : Nat} {t : Family × Template}
    (ht : l.templates[j]? = some t) (go : Compiled → Answer × Session σ) :
    s.on s.templates[j]? go = go (t.1.engine.bind t.2) := by
  rw [h.template?, ht]
  rfl

theorem create (h : s.Has l) (config : Config) :
    (s.step (.create config)).2.Has (l.step (.create config : Operation σ)) where
  engines := by
    rw [Lineage.step, List.map_append, ← h.engines, ← h.count]
    rfl
  templates := h.templates
  count := by
    rw [Lineage.step, ← h.count]
    exact List.length_append
  lt_count f hf := by
    rcases Lineage.mem_families_keepEngine hf with hf | rfl
    · exact Nat.lt_succ_of_lt (h.lt_count f hf)
    · exact Nat.lt_succ_self l.count

theorem lt_engine (h : s.Has l) {i : Nat} {f : Family} (hf : l.engines[i]? = some f) :
    f.number < l.count :=
  h.lt_count f (List.mem_append_left _ (List.mem_of_getElem? hf))

theorem lt_template (h : s.Has l) {j : Nat} {t : Family × Template}
    (ht : l.templates[j]? = some t) : t.1.number < l.count :=
  h.lt_count t.1 (List.mem_append_right _ (List.mem_map_of_mem (List.mem_of_getElem? ht)))

theorem step (h : s.Has l) (op : Operation σ) : (s.step op).2.Has (l.step op) := by
  cases hfamily : l.family? op with
  | none =>
    rw [h.refuses hfamily, Lineage.step_of_none hfamily]
    exact h
  | some f =>
    cases op with
    | create config => exact h.create config
    | copy i =>
      have hf : l.engines[i]? = some f := hfamily
      rw [Session.step, h.on_engine hf, Lineage.step, hf]
      exact h.keepEngine (h.lt_engine hf)
    | compile i source =>
      have hf : l.engines[i]? = some f := hfamily
      rw [Session.step, h.on_engine hf, Lineage.step, hf, Engine.compile]
      cases Template.parse source with
      | ok tree => exact h.keep (h.lt_engine hf) tree
      | error error => exact h
    | bind i tree =>
      have hf : l.engines[i]? = some f := hfamily
      rw [Session.step, h.on_engine hf, Lineage.step, hf]
      exact h.keep (h.lt_engine hf) tree
    | copyTemplate j =>
      obtain ⟨t, ht, rfl⟩ := Option.map_eq_some_iff.1 hfamily
      rw [Session.step, h.on_template ht, Lineage.step, ht]
      exact h.keep (h.lt_template ht) t.2
    | render j context =>
      obtain ⟨t, ht, rfl⟩ := Option.map_eq_some_iff.1 hfamily
      rw [Session.step, h.on_template ht]
      exact h.rendered _
    | run i tree context =>
      have hf : l.engines[i]? = some f := hfamily
      rw [Session.step, h.on_engine hf]
      exact h.rendered _
    | _ =>
      have hf : l.engines[_]? = some f := hfamily
      rw [Session.step, h.on_engine hf]
      first | exact h | exact h.update _ _

end Session.Has

/-! ## The helpers in the registries -/

/-- What an operation does to the helpers of all families. -/
def Operation.changeAll (w : Workspace σ) (e : Engine) : Operation σ → Workspace σ
  | .create config => (w.create config).2
  | .register _ name helper => w.register e name helper
  | .registerBuiltins _ => w.registerBuiltins e
  | .remove _ name => (w.remove e name).2
  | _ => w

namespace Session.Has

variable {s : Session σ} {l : Lineage}

theorem workspace_step (h : s.Has l) {op : Operation σ} {f : Family}
    (hfamily : l.family? op = some f) :
    (s.step op).2.workspace = op.changeAll s.workspace f.engine := by
  cases op with
  | create config => rfl
  | compile i source =>
    have hf : l.engines[i]? = some f := hfamily
    rw [Session.step, h.on_engine hf]
    cases f.engine.compile source <;> rfl
  | copyTemplate j =>
    obtain ⟨t, ht, rfl⟩ := Option.map_eq_some_iff.1 hfamily
    rw [Session.step, h.on_template ht]
    rfl
  | render j context =>
    obtain ⟨t, ht, rfl⟩ := Option.map_eq_some_iff.1 hfamily
    rw [Session.step, h.on_template ht]
    rfl
  | _ =>
    have hf : l.engines[_]? = some f := hfamily
    rw [Session.step, h.on_engine hf]
    rfl

/-- An operation changes nothing in the families that it is not on. -/
theorem ofFamily_step_of_not_on (h : s.Has l) {op : Operation σ} {n : Nat} (hn : ¬l.On n op) :
    (s.step op).2.workspace.ofFamily n = s.workspace.ofFamily n := by
  cases hfamily : l.family? op with
  | none => rw [h.refuses hfamily]
  | some f =>
    have hne : f.engine.family ≠ n := fun heq => hn (by rw [Lineage.On, hfamily, ← heq]; rfl)
    rw [h.workspace_step hfamily]
    cases op with
    | create config =>
      obtain rfl : (⟨l.count, config⟩ : Family) = f := Option.some.inj hfamily
      rw [Operation.changeAll, Workspace.ofFamily_create, h.count]
      exact if_neg (Ne.symm hne)
    | register i name helper => exact s.workspace.ofFamily_update_of_ne _ hne
    | registerBuiltins i => exact s.workspace.ofFamily_update_of_ne _ hne
    | remove i name => exact s.workspace.ofFamily_update_of_ne _ hne
    | _ => rfl

theorem environment_step_of_not_on (h : s.Has l) {op : Operation σ} {f : Family}
    (hn : ¬l.On f.number op) :
    (s.step op).2.workspace.environment f.engine = s.workspace.environment f.engine :=
  congrArg (Environment.mk · f.config.denylist) (h.ofFamily_step_of_not_on hn)

theorem get?_ofFamily_step (h : s.Has l) {op : Operation σ} {n : Nat} (hn : l.On n op) :
    ((s.step op).2.workspace.ofFamily n).get? = op.change (s.workspace.ofFamily n).get? := by
  obtain ⟨f, hfamily, rfl⟩ := Option.map_eq_some_iff.1 hn
  rw [h.workspace_step hfamily]
  -- the registry of an engine's family is there already, so that an update reaches it
  have hupdate : ∀ (i : Nat) (u : Registry σ → Registry σ), l.engines[i]? = some f →
      (s.workspace.update f.engine u).ofFamily f.number = u (s.workspace.ofFamily f.number) :=
    fun i u hf => s.workspace.ofFamily_update u (h.count ▸ h.lt_engine hf)
  cases op with
  | create config =>
    obtain rfl : (⟨l.count, config⟩ : Family) = f := Option.some.inj hfamily
    rw [Operation.changeAll, Workspace.ofFamily_create, if_pos h.count.symm,
      Workspace.initialRegistry, Operation.change]
    split
    · exact Registry.get?_registerBuiltins _
    · rfl
  | register i name helper =>
    rw [Operation.changeAll, Workspace.register, hupdate i _ hfamily]
    exact Registry.get?_register _ name helper
  | registerBuiltins i =>
    rw [Operation.changeAll, Workspace.registerBuiltins, hupdate i _ hfamily]
    exact Registry.get?_registerBuiltins _
  | remove i name =>
    rw [Operation.changeAll, Workspace.remove, hupdate i _ hfamily]
    exact Registry.get?_remove _ name
  | _ => rfl

end Session.Has

/-! ## Whole histories -/

theorem Session.has_after (state : σ) (ops : List (Operation σ)) :
    (Session.after state ops).Has (Lineage.start.after ops) := by
  induction ops using List.reverseRecOn with
  | nil => exact ⟨rfl, rfl, rfl, fun f hf => absurd hf List.not_mem_nil⟩
  | append_singleton ops op ih =>
    rw [Session.after_concat, Lineage.after_concat]
    exact ih.step op

/-- Every family has the helpers that its own operations make. -/
theorem Session.get?_ofFamily_after (state : σ) (ops : List (Operation σ)) (n : Nat) :
    ((Session.after state ops).workspace.ofFamily n).get? = helpersOf ops n := by
  induction ops using List.reverseRecOn with
  | nil => rfl
  | append_singleton ops op ih =>
    have h := Session.has_after state ops
    rw [Session.after_concat, helpersOf_concat, ← ih]
    split
    · rename_i hn
      exact h.get?_ofFamily_step hn
    · rename_i hn
      rw [h.ofFamily_step_of_not_on hn]

/-! ## Answers -/

theorem Session.renders (s : Session σ) (f : Family) (tree : Template) (context : Value) :
    f.Renders (s.workspace.ofFamily f.number).get? tree context s.state
      (s.rendered (s.workspace.run f.engine tree context)).1
      (s.rendered (s.workspace.run f.engine tree context)).2.state :=
  ⟨s.workspace.ofFamily f.number, rfl, _, rfl, rfl⟩

theorem Session.Has.answers {s : Session σ} {l : Lineage} (h : s.Has l) {op : Operation σ}
    {f : Family} (hfamily : l.family? op = some f) :
    l.Answers f (s.workspace.ofFamily f.number).get? s.state (s.step op).1 (s.step op).2.state
      op := by
  cases op with
  | create config => exact ⟨rfl, rfl⟩
  | names i =>
    have hf : l.engines[i]? = some f := hfamily
    rw [Session.step, h.on_engine hf]
    exact ⟨⟨_, rfl, Registry.names_pairwise_lt _, fun name => Registry.mem_names_iff⟩, rfl⟩
  | compile i source =>
    have hf : l.engines[i]? = some f := hfamily
    rw [Session.step, h.on_engine hf, Engine.compile, Lineage.Answers]
    cases Template.parse source <;> exact ⟨rfl, rfl⟩
  | copyTemplate j =>
    obtain ⟨t, ht, rfl⟩ := Option.map_eq_some_iff.1 hfamily
    rw [Session.step, h.on_template ht]
    exact ⟨rfl, rfl⟩
  | run i tree context =>
    have hf : l.engines[i]? = some f := hfamily
    rw [Session.step, h.on_engine hf]
    exact s.renders f tree context
  | render j context =>
    obtain ⟨t, ht, rfl⟩ := Option.map_eq_some_iff.1 hfamily
    rw [Session.step, h.on_template ht]
    exact ⟨t, ht, s.renders t.1 t.2 context⟩
  | _ =>
    have hf : l.engines[_]? = some f := hfamily
    rw [Session.step, h.on_engine hf]
    exact ⟨rfl, rfl⟩

end Steps

/-- **One map for each family.** After any operations, every engine, its evaluator and every
template look up the helpers that the operations on their family have made, in their order. The next
operation answers by this map: whether a helper is there, the names, which increase by their bytes,
and renderings, no matter when the template was made. What the program has in hand stays, and an
operation on another family leaves its helpers as they are. -/
theorem Session.step_after {σ : Type} (state : σ) (ops : List (Operation σ)) (op : Operation σ) :
    let s := Session.after state ops
    let l := Lineage.start.after ops
    (s.engines.map fun e =>
        ((s.workspace.registry e).get?, (s.workspace.environment e).helpers.get?)) =
        (l.engines.map fun f => (helpersOf ops f.number, helpersOf ops f.number)) ∧
      (s.templates.map fun c => (c.tree, (s.workspace.environmentOf c.evaluator).helpers.get?)) =
        (l.templates.map fun t => (t.2, helpersOf ops t.1.number)) ∧
      (match l.family? op with
        | none => s.step op = (.refused, s)
        | some f =>
          l.Answers f (helpersOf ops f.number) s.state (s.step op).1 (s.step op).2.state op) ∧
      s.engines <+: (s.step op).2.engines ∧ s.templates <+: (s.step op).2.templates ∧
      (∀ f ∈ l.families, f.number < l.count) ∧
      (∀ (i : Nat) (e : Engine) (f : Family), s.engines[i]? = some e → l.engines[i]? = some f →
        ¬l.On f.number op →
        (s.step op).2.workspace.registry e = s.workspace.registry e ∧
          (s.step op).2.workspace.environment e = s.workspace.environment e) ∧
      ∀ (j : Nat) (c : Compiled) (t : Family × Template), s.templates[j]? = some c →
        l.templates[j]? = some t → ¬l.On t.1.number op →
        (s.step op).2.workspace.environmentOf c.evaluator =
          s.workspace.environmentOf c.evaluator := by
  intro s l
  have h : s.Has l := Session.has_after state ops
  have hget : ∀ f : Family, (s.workspace.ofFamily f.number).get? = helpersOf ops f.number :=
    fun f => Session.get?_ofFamily_after state ops f.number
  refine ⟨?_, ?_, ?_, (s.prefix_step op).1, (s.prefix_step op).2, h.lt_count, ?_, ?_⟩
  · rw [h.engines, List.map_map]
    exact List.map_congr_left fun f _ => Prod.ext (hget f) (hget f)
  · rw [h.templates, List.map_map]
    exact List.map_congr_left fun t _ => congrArg (t.2, ·) (hget t.1)
  · cases hfamily : l.family? op with
    | none => exact h.refuses hfamily
    | some f =>
      have hanswers := h.answers hfamily
      rwa [Session.get?_ofFamily_after] at hanswers
  · intro i e f he hf hon
    rw [h.engine?, hf] at he
    cases he
    exact ⟨h.ofFamily_step_of_not_on hon, h.environment_step_of_not_on hon⟩
  · intro j c t hc ht hon
    rw [h.template?, ht] at hc
    cases hc
    exact h.environment_step_of_not_on hon

/-- The template of the first family finds the helper that a copy of its engine was given later, and
the second family loses a ready helper by itself. -/
theorem Session.step_after_remove :
    let call : Template := .ofStatements [.interpolation (.call "next" [])]
    let ops : List (Operation Nat) :=
      [.create ⟨[], false⟩, .bind 0 call, .copy 0, .create ⟨[], true⟩,
        .register 1 "next" fun _ n => (.ok (.string "x"), n + 1)]
    let op : Operation Nat := .remove 2 "trim"
    let s := Session.after 5 ops
    let l := Lineage.start.after ops
    let c : Compiled := ⟨call, ⟨0, ⟨[]⟩⟩⟩
    s.templates[0]? = some c ∧ l.templates[0]? = some (⟨0, ⟨[], false⟩⟩, call) ∧ ¬l.On 0 op ∧
      (s.step op).1 = .flag true ∧
      (s.step op).2.workspace.environmentOf c.evaluator = s.workspace.environmentOf c.evaluator ∧
      ((s.workspace.environmentOf c.evaluator).helpers.get? "next").isSome = true := by
  intro call ops op s l c
  have h := Session.step_after 5 ops op
  have hon : ¬l.On 0 op := by decide
  refine ⟨rfl, rfl, hon, ?_, h.2.2.2.2.2.2.2 0 c _ rfl rfl hon, ?_⟩
  · exact h.2.2.1.1
  · have hget := congrArg (fun views => views.map fun view => (view.2 "next").isSome) h.2.1
    exact List.head_eq_of_cons_eq hget

end Stencil
