import Stencil.Tree.Depth

/-!
# Nesting depth along the tree

`Template.nestingDepth_eq`: the walk over a tree gives the larger of two depths that are defined
along the tree, that of its blocks and that of the calls in its expressions.

The walk carries how deep a node stands on its stack. `Template.Node.reach` says how deep what is
below a node goes from there, so the depth found so far and the reach of the stack determine the
result.
-/

namespace Stencil

mutual

/-- How deep calls nest in an expression. -/
def Expression.callDepth : Expression → Nat
  | .call _ arguments => Expression.callDepths arguments + 1
  | _ => 0

def Expression.callDepths : List Expression → Nat
  | [] => 0
  | e :: es => max e.callDepth (Expression.callDepths es)

end

mutual

/-- How deep blocks nest in a statement. -/
def Statement.blockDepth : Statement → Nat
  | .block _ _ body elseBody =>
    max (Statement.blockDepths body) (Statement.elseBlockDepth elseBody) + 1
  | _ => 0

def Statement.blockDepths : List Statement → Nat
  | [] => 0
  | s :: ss => max s.blockDepth (Statement.blockDepths ss)

def Statement.elseBlockDepth : Option (List Statement) → Nat
  | none => 0
  | some ss => Statement.blockDepths ss

end

mutual

/-- How deep calls nest in the expressions of a statement, each counted by itself. -/
def Statement.callDepth : Statement → Nat
  | .interpolation e => e.callDepth
  | .block e _ body elseBody =>
    max e.callDepth (max (Statement.callDepths body) (Statement.elseCallDepth elseBody))
  | _ => 0

def Statement.callDepths : List Statement → Nat
  | [] => 0
  | s :: ss => max s.callDepth (Statement.callDepths ss)

def Statement.elseCallDepth : Option (List Statement) → Nat
  | none => 0
  | some ss => Statement.callDepths ss

end

namespace Template.Node

/-- Levels of nesting counted on from `n`; none at all count as none. -/
def countedFrom (n depth : Nat) : Nat :=
  if depth = 0 then 0 else n + depth

theorem countedFrom_zero_left (depth : Nat) : countedFrom 0 depth = depth := by
  unfold countedFrom
  split <;> omega

theorem countedFrom_max (n a b : Nat) :
    countedFrom n (max a b) = max (countedFrom n a) (countedFrom n b) := by
  unfold countedFrom
  split <;> split <;> split <;> omega

theorem countedFrom_succ (n depth : Nat) :
    countedFrom n (depth + 1) = max (n + 1) (countedFrom (n + 1) depth) := by
  unfold countedFrom
  rw [if_neg (by omega)]
  split <;> omega

/-- The depth of the deepest node at or below a node. -/
def reach : Node → Nat
  | statement s blocks => max (countedFrom blocks s.blockDepth) s.callDepth
  | expression e calls => countedFrom calls e.callDepth

def deepest : List Node → Nat
  | [] => 0
  | node :: nodes => max node.reach (deepest nodes)

theorem deepest_append (nodes others : List Node) :
    deepest (nodes ++ others) = max (deepest nodes) (deepest others) := by
  induction nodes with
  | nil => simp [deepest]
  | cons node nodes ih => simp only [List.cons_append, deepest, ih, Nat.max_assoc]

theorem deepest_reverse (nodes : List Node) : deepest nodes.reverse = deepest nodes := by
  induction nodes with
  | nil => rfl
  | cons node nodes ih =>
    rw [List.reverse_cons, deepest_append, ih]
    simp only [deepest]
    omega

theorem deepest_expressions (es : List Expression) (calls : Nat) :
    deepest (es.map (expression · calls)) = countedFrom calls (Expression.callDepths es) := by
  induction es with
  | nil => rfl
  | cons e es ih =>
    simp only [List.map_cons, deepest, reach, ih, Expression.callDepths, countedFrom_max]

theorem deepest_statements (ss : List Statement) (blocks : Nat) :
    deepest (ss.map (statement · blocks)) =
      max (countedFrom blocks (Statement.blockDepths ss)) (Statement.callDepths ss) := by
  induction ss with
  | nil => rfl
  | cons s ss ih =>
    simp only [List.map_cons, deepest, reach, ih, Statement.blockDepths, Statement.callDepths,
      countedFrom_max]
    ac_rfl

theorem blockDepths_getD (elseBody : Option (List Statement)) :
    Statement.blockDepths (elseBody.getD []) = Statement.elseBlockDepth elseBody := by
  cases elseBody <;> rfl

theorem callDepths_getD (elseBody : Option (List Statement)) :
    Statement.callDepths (elseBody.getD []) = Statement.elseCallDepth elseBody := by
  cases elseBody <;> rfl

/-- What a node reaches is its own depth or lies below it. -/
theorem reach_eq (node : Node) : node.reach = max node.depth (deepest node.children) := by
  match node with
  | statement (.text _) _ | statement (.comment _) _ | statement .unknown _ =>
    simp [reach, depth, children, deepest, Statement.blockDepth, Statement.callDepth, countedFrom]
  | statement (.interpolation e) _ =>
    simp only [reach, depth, children, deepest, Statement.blockDepth, Statement.callDepth,
      countedFrom_zero_left]
    simp [countedFrom]
  | statement (.block e _ body elseBody) blocks =>
    rw [children, List.map_append]
    simp only [reach, depth, deepest, Statement.blockDepth, Statement.callDepth, countedFrom_succ,
      countedFrom_max, countedFrom_zero_left, deepest_append, deepest_statements,
      blockDepths_getD, callDepths_getD]
    ac_rfl
  | expression (.literal _) _ | expression (.path _) _ =>
    simp [reach, depth, children, deepest, Expression.callDepth, countedFrom]
  | expression (.call _ arguments) calls =>
    rw [children, deepest_expressions]
    simp only [reach, depth, Expression.callDepth, countedFrom_succ]

end Template.Node

namespace Template

theorem walk_eq (found : Nat) (stack : List Node) :
    walk found stack = max found (Node.deepest stack) := by
  induction found, stack using walk.induct with
  | case1 found =>
    rw [walk]
    simp [Node.deepest]
  | case2 found node stack ih =>
    rw [walk, ih, Node.deepest_append, Node.deepest_reverse, Node.deepest, Node.reach_eq]
    omega

theorem nestingDepth_eq (t : Template) :
    t.nestingDepth =
      max (Statement.blockDepths t.statements) (Statement.callDepths t.statements) := by
  unfold nestingDepth
  rw [walk_eq, Node.deepest_reverse, Node.deepest_statements, Node.countedFrom_zero_left,
    Nat.zero_max]

end Template

end Stencil
