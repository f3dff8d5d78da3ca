import Mathlib.Data.List.Basic
import Stencil.Engine
import Stencil.Proofs.Render.Runs

/-!
# Sessions

A session is what a program has in hand: its engines and templates, in the order in which it got
them, the helpers of all families, and the state that the helpers keep. The program names engines
and templates by their places. An operation on one that it does not have is refused and changes
nothing.
-/

namespace Stencil

/-- What a program can do with its engines and templates. -/
inductive Operation (σ : Type)
  | create (config : Config)
  | copy (engine : Nat)
  | register (engine : Nat) (name : String) (helper : Helper σ)
  | registerBuiltins (engine : Nat)
  | remove (engine : Nat) (name : String)
  | compile (engine : Nat) (source : String)
  /-- Gives the engine a tree that is there already. -/
  | bind (engine : Nat) (tree : Template)
  | copyTemplate (template : Nat)
  | has (engine : Nat) (name : String)
  | names (engine : Nat)
  /-- Renders a tree without keeping a template. -/
  | run (engine : Nat) (tree : Template) (context : Value)
  | render (template : Nat) (context : Value)

inductive Answer
  | refused
  | done
  | flag (b : Bool)
  | names (names : List String)
  | invalid (error : SyntaxError)
  | rendered (result : Except RenderError String)

structure Session (σ : Type) where
  workspace : Workspace σ
  engines : List Engine
  templates : List Compiled
  /-- The state that the helpers share. -/
  state : σ

namespace Session

variable {σ : Type}

def start (state : σ) : Session σ :=
  ⟨.empty, [], [], state⟩

def keepEngine (s : Session σ) (e : Engine) : Session σ :=
  { s with engines := s.engines ++ [e] }

def keep (s : Session σ) (c : Compiled) : Session σ :=
  { s with templates := s.templates ++ [c] }

def rendered (s : Session σ) (x : Render σ String) : Answer × Session σ :=
  (.rendered (Render.runFrom x s.state).1, { s with state := (Render.runFrom x s.state).2 })

/-- Goes on with what the operation is on, if it is there. -/
def on {α : Type} (s : Session σ) (found : Option α) (f : α → Answer × Session σ) :
    Answer × Session σ :=
  match found with
  | none => (.refused, s)
  | some a => f a

def step (s : Session σ) : Operation σ → Answer × Session σ
  | .create config =>
    let (e, workspace) := s.workspace.create config
    (.done, { s with workspace }.keepEngine e)
  | .copy i => s.on s.engines[i]? fun e => (.done, s.keepEngine e.copy)
  | .register i name helper => s.on s.engines[i]? fun e =>
    (.done, { s with workspace := s.workspace.register e name helper })
  | .registerBuiltins i => s.on s.engines[i]? fun e =>
    (.done, { s with workspace := s.workspace.registerBuiltins e })
  | .remove i name => s.on s.engines[i]? fun e =>
    let (found, workspace) := s.workspace.remove e name
    (.flag found, { s with workspace })
  | .compile i source => s.on s.engines[i]? fun e =>
    match e.compile source with
    | .ok c => (.done, s.keep c)
    | .error error => (.invalid error, s)
  | .bind i tree => s.on s.engines[i]? fun e => (.done, s.keep (e.bind tree))
  | .copyTemplate j => s.on s.templates[j]? fun c => (.done, s.keep c)
  | .has i name => s.on s.engines[i]? fun e => (.flag (s.workspace.hasHelper e name), s)
  | .names i => s.on s.engines[i]? fun e => (.names (s.workspace.helperNames e), s)
  | .run i tree context => s.on s.engines[i]? fun e =>
    s.rendered (s.workspace.run e tree context)
  | .render j context => s.on s.templates[j]? fun c => s.rendered (s.workspace.render c context)

/-- The session after these operations, from a start without engines. -/
def after (state : σ) (ops : List (Operation σ)) : Session σ :=
  ops.foldl (fun s op => (s.step op).2) (start state)

theorem after_concat (state : σ) (ops : List (Operation σ)) (op : Operation σ) :
    after state (ops ++ [op]) = ((after state ops).step op).2 :=
  List.foldl_concat ..

/-- What a program has in hand it keeps. -/
theorem prefix_step (s : Session σ) (op : Operation σ) :
    s.engines <+: (s.step op).2.engines ∧ s.templates <+: (s.step op).2.templates := by
  have hon : ∀ {α : Type} (found : Option α) (f : α → Answer × Session σ),
      (∀ a, s.engines <+: (f a).2.engines ∧ s.templates <+: (f a).2.templates) →
      s.engines <+: (s.on found f).2.engines ∧ s.templates <+: (s.on found f).2.templates := by
    intro α found f hf
    cases found with
    | none => exact ⟨List.prefix_refl _, List.prefix_refl _⟩
    | some a => exact hf a
  cases op with
  | create config => exact ⟨List.prefix_append _ _, List.prefix_refl _⟩
  | copy i => exact hon _ _ fun e => ⟨List.prefix_append _ _, List.prefix_refl _⟩
  | bind i tree => exact hon _ _ fun e => ⟨List.prefix_refl _, List.prefix_append _ _⟩
  | copyTemplate j => exact hon _ _ fun c => ⟨List.prefix_refl _, List.prefix_append _ _⟩
  | compile i source =>
    refine hon _ _ fun e => ?_
    cases e.compile source with
    | ok c => exact ⟨List.prefix_refl _, List.prefix_append _ _⟩
    | error error => exact ⟨List.prefix_refl _, List.prefix_refl _⟩
  | _ => exact hon _ _ fun _ => ⟨List.prefix_refl _, List.prefix_refl _⟩

end Session

/-! ## The helpers of one family -/

namespace Workspace

variable {σ : Type}

theorem ofFamily_create (w : Workspace σ) (config : Config) (n : Nat) :
    (w.create config).2.ofFamily n =
      if n = w.registries.length then initialRegistry config else w.ofFamily n := by
  simp only [create, ofFamily, List.getD_eq_getElem?_getD]
  rcases Nat.lt_trichotomy n w.registries.length with h | rfl | h
  · rw [List.getElem?_append_left h, if_neg (Nat.ne_of_lt h)]
  · rw [List.getElem?_concat_length, if_pos rfl, Option.getD_some]
  · rw [List.getElem?_eq_none (Nat.le_of_lt h), if_neg (Nat.ne_of_gt h), List.getElem?_eq_none]
    rwa [List.length_append]

theorem ofFamily_update_of_ne (w : Workspace σ) {e : Engine} (f : Registry σ → Registry σ) {n : Nat}
    (h : e.family ≠ n) : (w.update e f).ofFamily n = w.ofFamily n := by
  simp only [update, ofFamily, List.getD_eq_getElem?_getD, List.getElem?_modify_ne _ _ h]

theorem ofFamily_update (w : Workspace σ) {e : Engine} (f : Registry σ → Registry σ)
    (h : e.family < w.registries.length) :
    (w.update e f).ofFamily e.family = f (w.ofFamily e.family) := by
  simp only [update, ofFamily, List.getD_eq_getElem?_getD, List.getElem?_modify_eq,
    List.getElem?_eq_getElem h, Option.map_eq_map, Option.map_some, Option.getD_some]

end Workspace

end Stencil
