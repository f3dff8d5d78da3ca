import Stencil.Engine
import Stencil.Proofs.Render.Runs
import Stencil.Proofs.Tree.Depth

/-!
# Entries that rendering cannot see

A path asks for entries by the names that it consists of and by no others, and never for a name that
is denied. So `Workspace.run_eq_of_without_eq`: two contexts that differ only in entries which no
path of the template may ask for are rendered alike.

Values are compared by what is left of them `without` those entries. Rendering commutes with this
step by step: a path leads to what is left of where it led (`Denylist.resolve_without`), and blocks
and outputs do not look at entries at all.
-/

namespace Stencil

/-! ## Values without some of their entries -/

namespace Value

section Without

variable (keys : String → Prop) [DecidablePred keys]

mutual

/-- The value without the entries under `keys`, at every depth. -/
def without : Value → Value
  | undefined => undefined
  | null => null
  | bool b => bool b
  | number x => number x
  | string s => string s
  | array items => array (itemsWithout items)
  | object entries => object (entriesWithout entries)

def itemsWithout : List Value → List Value
  | [] => []
  | v :: vs => v.without :: itemsWithout vs

def entriesWithout : List (String × Value) → List (String × Value)
  | [] => []
  | (key, v) :: es =>
    if keys key then entriesWithout es else (key, v.without) :: entriesWithout es

end

variable {keys}

theorem isTruthy_without (v : Value) : (v.without keys).isTruthy = v.isTruthy := by
  cases v with
  | array items => cases items <;> simp [without, itemsWithout, isTruthy]
  | _ => simp [without, isTruthy]

theorem isObject_without (v : Value) : (v.without keys).isObject = v.isObject := by
  cases v <;> simp [without, isObject]

theorem output_without (v : Value) : (v.without keys).output = v.output := by
  cases v <;> simp [without, output]

theorem lookup_entriesWithout {key : String} (h : ¬ keys key) (es : List (String × Value)) :
    (entriesWithout keys es).lookup key = (es.lookup key).map (without keys) := by
  induction es with
  | nil => simp [entriesWithout]
  | cons e es ih =>
    obtain ⟨other, v⟩ := e
    rw [entriesWithout]
    by_cases hother : keys other
    · have hne : (key == other) = false := beq_false_of_ne fun heq => h (heq ▸ hother)
      rw [if_pos hother, ih, List.lookup_cons, hne]
    · rw [if_neg hother, List.lookup_cons, List.lookup_cons, ih]
      cases key == other <;> rfl

theorem get?_without {key : String} (h : ¬ keys key) (v : Value) :
    (v.without keys).get? key = (v.get? key).map (without keys) := by
  cases v with
  | object entries =>
    rw [without]
    exact lookup_entriesWithout h entries
  | _ => simp [without, get?]

end Without

end Value

/-- Where a path may not ask for entries under `keys`, it leads to what is left without them. -/
theorem Denylist.resolve_without {keys : String → Prop} [DecidablePred keys] (d : Denylist)
    {segments : List String} (h : ∀ s ∈ segments, keys s → d.denies s = true) (v : Value) :
    d.resolve (v.without keys) segments = (d.resolve v segments).without keys := by
  induction segments generalizing v with
  | nil => rfl
  | cons s ss ih =>
    rw [resolve, resolve]
    by_cases hdenied : d.denies s = true
    · rw [if_pos hdenied, if_pos hdenied, Value.without]
    · have hkeys : ¬ keys s := fun hs => hdenied (h s List.mem_cons_self hs)
      rw [if_neg hdenied, if_neg hdenied, Value.get?_without hkeys]
      cases v.get? s with
      | none => simp [Value.without]
      | some w => exact ih (fun s' hs' => h s' (List.mem_cons_of_mem s hs')) w

/-! ## The names that a template asks for -/

mutual

/-- The segments of all paths in the expression. -/
def Expression.segments : Expression → List String
  | .literal _ => []
  | .path segments => segments
  | .call _ arguments => Expression.allSegments arguments

def Expression.allSegments : List Expression → List String
  | [] => []
  | e :: es => e.segments ++ Expression.allSegments es

end

mutual

def Statement.segments : Statement → List String
  | .interpolation e => e.segments
  | .block e _ body elseBody =>
    e.segments ++ (Statement.allSegments body ++ Statement.elseSegments elseBody)
  | _ => []

def Statement.allSegments : List Statement → List String
  | [] => []
  | s :: ss => s.segments ++ Statement.allSegments ss

def Statement.elseSegments : Option (List Statement) → List String
  | none => []
  | some ss => Statement.allSegments ss

end

def Template.segments (t : Template) : List String :=
  Statement.allSegments t.statements

/-! ## Rendering -/

theorem Registry.get?_of_names_eq_nil {σ : Type} {r : Registry σ} (h : r.names = [])
    (name : String) : r.get? name = none := by
  have hentries : r.entries = [] := List.map_eq_nil_iff.1 h
  unfold Registry.get?
  rw [hentries, List.lookup_nil]

theorem Environment.invoke_of_names_eq_nil {σ : Type} {env : Environment σ}
    (h : env.helpers.names = []) (name : String) (arguments : List Value) :
    env.invoke name arguments = throw (.unknownHelper name) := by
  unfold Environment.invoke
  rw [Registry.get?_of_names_eq_nil h]

section Rendering

variable {σ : Type} {env : Environment σ} {keys : String → Prop} [DecidablePred keys]

mutual

theorem Expression.eval_without (hhelpers : env.helpers.names = []) (context : Value) :
    ∀ e : Expression, (∀ s ∈ e.segments, keys s → env.denylist.denies s = true) →
      e.eval env (context.without keys) = Value.without keys <$> e.eval env context
  | .literal value, _ => by
    rw [Expression.eval, Expression.eval, map_pure, Value.without]
  | .path segments, h => by
    rw [Expression.eval, Expression.eval, map_pure]
    exact congrArg pure (env.denylist.resolve_without h context)
  | .call name arguments, h => by
    have harguments := Expression.evalAll_without hhelpers context arguments h
    -- what the arguments are does not matter, for there is no helper to see them
    rw [Expression.eval, Expression.eval, harguments]
    simp only [Environment.invoke_of_names_eq_nil hhelpers, bind_map_left, map_bind]
    rfl

theorem Expression.evalAll_without (hhelpers : env.helpers.names = []) (context : Value) :
    ∀ es : List Expression,
      (∀ s ∈ Expression.allSegments es, keys s → env.denylist.denies s = true) →
        Expression.evalAll env (context.without keys) es =
          Value.itemsWithout keys <$> Expression.evalAll env context es
  | [], _ => by
    rw [Expression.evalAll, Expression.evalAll, map_pure, Value.itemsWithout]
  | e :: es, h => by
    rw [Expression.allSegments, List.forall_mem_append] at h
    have he := Expression.eval_without hhelpers context e h.1
    have hes := Expression.evalAll_without hhelpers context es h.2
    rw [Expression.evalAll, Expression.evalAll, he, hes]
    simp only [bind_map_left, map_bind, map_pure, Value.itemsWithout]

end

section Blocks

variable {body elseBody : Value → Render σ String}

theorem Render.items_without (hbody : ∀ c : Value, body (c.without keys) = body c) (context : Value)
    (vs : List Value) :
    Render.items body (context.without keys) (Value.itemsWithout keys vs) =
      Render.items body context vs := by
  induction vs with
  | nil => rfl
  | cons v vs ih =>
    have hitem : body (if (v.without keys).isObject then v.without keys else context.without keys) =
        body (if v.isObject then v else context) := by
      rw [Value.isObject_without]
      cases v.isObject
      · exact hbody context
      · exact hbody v
    rw [Value.itemsWithout, Render.items, Render.items, hitem, ih]

/-- A block looks at the kind of its value and at whether it is truthy. -/
theorem Render.block_without (hbody : ∀ c : Value, body (c.without keys) = body c)
    (helse : ∀ c : Value, elseBody (c.without keys) = elseBody c) (negated : Bool)
    (context v : Value) :
    Render.block body elseBody negated (context.without keys) (v.without keys) =
      Render.block body elseBody negated context v := by
  unfold Render.block
  rw [Value.isTruthy_without, hbody, helse]
  cases negated with
  | true => rfl
  | false =>
    simp only [Bool.false_eq_true, if_false]
    cases v with
    | array items =>
      cases items with
      | nil => rfl
      | cons v vs => exact Render.items_without hbody context (v :: vs)
    | object entries => exact hbody (.object entries)
    | _ => rfl

end Blocks

mutual

theorem Statement.render_without (hhelpers : env.helpers.names = []) :
    ∀ s : Statement, (∀ key ∈ s.segments, keys key → env.denylist.denies key = true) →
      ∀ context : Value, s.render env (context.without keys) = s.render env context
  | .text _, _, _ => by rw [Statement.render, Statement.render]
  | .comment _, _, _ => by rw [Statement.render, Statement.render]
  | .unknown, _, _ => by rw [Statement.render, Statement.render]
  | .interpolation e, h, context => by
    have he := Expression.eval_without hhelpers context e h
    rw [Statement.render, Statement.render, he]
    simp only [bind_map_left, Value.output_without]
  | .block e negated body elseBody, h, context => by
    rw [Statement.segments, List.forall_mem_append, List.forall_mem_append] at h
    have he := Expression.eval_without hhelpers context e h.1
    have hbody := Statement.renderAll_without hhelpers body h.2.1
    have helse := Statement.renderElse_without hhelpers elseBody h.2.2
    rw [Statement.render, Statement.render, he, bind_map_left]
    exact bind_congr fun v => Render.block_without hbody helse negated context v

theorem Statement.renderAll_without (hhelpers : env.helpers.names = []) :
    ∀ ss : List Statement,
      (∀ key ∈ Statement.allSegments ss, keys key → env.denylist.denies key = true) →
        ∀ context : Value, Statement.renderAll env ss (context.without keys) =
          Statement.renderAll env ss context
  | [], _, _ => by rw [Statement.renderAll, Statement.renderAll]
  | s :: ss, h, context => by
    rw [Statement.allSegments, List.forall_mem_append] at h
    have hs := Statement.render_without hhelpers s h.1 context
    have hss := Statement.renderAll_without hhelpers ss h.2 context
    rw [Statement.renderAll, Statement.renderAll, hs, hss]

theorem Statement.renderElse_without (hhelpers : env.helpers.names = []) :
    ∀ elseBody : Option (List Statement),
      (∀ key ∈ Statement.elseSegments elseBody, keys key → env.denylist.denies key = true) →
        ∀ context : Value, Statement.renderElse env elseBody (context.without keys) =
          Statement.renderElse env elseBody context
  | none, _, _ => by rw [Statement.renderElse, Statement.renderElse]
  | some ss, h, context => by
    rw [Statement.renderElse, Statement.renderElse]
    exact Statement.renderAll_without hhelpers ss h context

end

theorem Template.render_without (hhelpers : env.helpers.names = []) {t : Template}
    (h : ∀ key ∈ t.segments, keys key → env.denylist.denies key = true) (context : Value) :
    t.render env (context.without keys) = t.render env context := by
  unfold Template.render
  rw [Statement.renderAll_without hhelpers t.statements h]

end Rendering

/-- **Rendering sees no other entries.** On an engine without helpers, let each of some keys be
denied or be no segment of the template's paths. Two contexts that are the same without the entries
under these keys, at every depth, give the same output or the same error. -/
theorem Workspace.run_eq_of_without_eq {σ : Type} (w : Workspace σ) (engine : Engine)
    (hhelpers : w.helperNames engine = []) (t : Template) (keys : String → Prop)
    [DecidablePred keys]
    (hkeys : ∀ key, keys key →
      (key ∈ ["constructor", "__proto__", "prototype"] ∨ key ∈ engine.config.unsafeKeys) ∨
        key ∉ t.segments)
    (context other : Value) (hcontext : context.without keys = other.without keys) :
    w.run engine t context = w.run engine t other := by
  have hdenied : ∀ key ∈ t.segments, keys key →
      (w.environment engine).denylist.denies key = true := by
    intro key hmem hkey
    rw [w.environment_eq]
    show (Denylist.always.contains key || engine.config.unsafeKeys.contains key) = true
    rw [Bool.or_eq_true, List.contains_iff_mem, List.contains_iff_mem]
    exact (hkeys key hkey).resolve_right fun h => h hmem
  have hnames : (w.environment engine).helpers.names = [] := by
    rw [w.environment_eq]
    exact hhelpers
  have hrender : ∀ c : Value,
      t.render (w.environment engine) (c.without keys) = t.render (w.environment engine) c :=
    Template.render_without hnames hdenied
  calc w.run engine t context = t.render (w.environment engine) (context.without keys) :=
        (hrender context).symm
    _ = t.render (w.environment engine) (other.without keys) := by rw [hcontext]
    _ = w.run engine t other := hrender other

/-- A denied name, and one that no path mentions, in an item of an array and in a context that a
block switches to. -/
theorem Workspace.run_secret_eq :
    let engine : Engine := .ofConfig 0 ⟨["secret"], false⟩
    let workspace : Workspace Unit := (Workspace.empty.create ⟨["secret"], false⟩).2
    let t : Template := .ofStatements [.block (.path ["users"]) false
      [.interpolation (.path ["name"]), .interpolation (.path ["secret"])] none]
    let context : Value := .object [("users", .array [.object
      [("name", .string "a"), ("note", .null), ("secret", .string "b")]])]
    let other : Value := .object [("secret", .bool true), ("users", .array [.object
      [("name", .string "a"), ("secret", .array [])]])]
    workspace.run engine t context = workspace.run engine t other ∧
      Render.runFrom (workspace.run engine t other) () = (.ok "a", ()) := by
  intro engine workspace t context other
  refine ⟨?_, ?_⟩
  · refine workspace.run_eq_of_without_eq engine rfl t
      (fun key => key = "secret" ∨ key = "note") ?_ context other ?_
    · rintro key (rfl | rfl)
      · exact .inl (.inr (List.mem_singleton_self _))
      · exact .inr (by decide)
    · rfl
  · have hdepth : t.nestingDepth ≤ Template.depthLimit := by
      rw [Template.nestingDepth_eq]
      decide
    unfold Workspace.run Workspace.evaluate
    rw [Template.render_eq_renderAll _ rfl hdepth]
    rfl

end Stencil
