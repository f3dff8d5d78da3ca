import Stencil.Tree

/-!
# Nesting depth

The depth of a template is that of its deepest block or of its deepest helper call, whichever is
larger. A block is one deeper than the block it stands in; the calls of an expression are counted
from the expression on. `Template.nestingDepth` walks over the tree with a stack of the nodes
still to be visited.
-/

namespace Stencil

/-! ## Sizes of trees -/

mutual

def Expression.size : Expression → Nat
  | .literal _ => 1
  | .path _ => 1
  | .call _ arguments => Expression.sizes arguments + 1

def Expression.sizes : List Expression → Nat
  | [] => 0
  | e :: es => e.size + Expression.sizes es

end

mutual

def Statement.size : Statement → Nat
  | .interpolation e => e.size + 1
  | .block e _ body elseBody => e.size + Statement.sizes body + Statement.elseSize elseBody + 1
  | _ => 1

def Statement.sizes : List Statement → Nat
  | [] => 0
  | s :: ss => s.size + Statement.sizes ss

def Statement.elseSize : Option (List Statement) → Nat
  | none => 0
  | some ss => Statement.sizes ss

end

/-! ## The walk -/

/-- A node still to be visited, with the number of blocks or calls around it. -/
inductive Template.Node
  | statement (s : Statement) (blocks : Nat)
  | expression (e : Expression) (calls : Nat)

namespace Template.Node

def size : Node → Nat
  | statement s _ => s.size
  | expression e _ => e.size

/-- How deep the node itself is. -/
def depth : Node → Nat
  | statement (.block ..) blocks => blocks + 1
  | expression (.call ..) calls => calls + 1
  | _ => 0

/-- The nodes right below. -/
def children : Node → List Node
  | statement (.interpolation e) _ => [expression e 0]
  | statement (.block e _ body elseBody) blocks =>
    expression e 0 :: (body ++ elseBody.getD []).map (statement · (blocks + 1))
  | expression (.call _ arguments) calls => arguments.map (expression · (calls + 1))
  | _ => []

def sizes : List Node → Nat
  | [] => 0
  | node :: nodes => node.size + sizes nodes

theorem sizes_append (nodes others : List Node) :
    sizes (nodes ++ others) = sizes nodes + sizes others := by
  induction nodes with
  | nil => simp [sizes]
  | cons node nodes ih => simp [sizes, ih, Nat.add_assoc]

theorem sizes_reverse (nodes : List Node) : sizes nodes.reverse = sizes nodes := by
  induction nodes with
  | nil => rfl
  | cons node nodes ih =>
    rw [List.reverse_cons, sizes_append, ih, sizes, sizes, sizes, Nat.add_zero, Nat.add_comm]

theorem sizes_expressions (es : List Expression) (n : Nat) :
    sizes (es.map (expression · n)) = Expression.sizes es := by
  induction es with
  | nil => rfl
  | cons e es ih => simp [Expression.sizes, sizes, size, ih]

theorem sizes_statements (ss : List Statement) (n : Nat) :
    sizes (ss.map (statement · n)) = Statement.sizes ss := by
  induction ss with
  | nil => rfl
  | cons s ss ih => simp [Statement.sizes, sizes, size, ih]

theorem statementSizes_append (ss ts : List Statement) :
    Statement.sizes (ss ++ ts) = Statement.sizes ss + Statement.sizes ts := by
  induction ss with
  | nil => simp [Statement.sizes]
  | cons s ss ih => simp [Statement.sizes, ih, Nat.add_assoc]

theorem sizes_getD (elseBody : Option (List Statement)) :
    Statement.sizes (elseBody.getD []) = Statement.elseSize elseBody := by
  cases elseBody <;> rfl

/-- What is below a node is smaller than the node. -/
theorem sizes_children_lt (node : Node) : sizes node.children < node.size := by
  match node with
  | statement (.text _) _ => simp [children, sizes, size, Statement.size]
  | statement (.comment _) _ => simp [children, sizes, size, Statement.size]
  | statement .unknown _ => simp [children, sizes, size, Statement.size]
  | statement (.interpolation e) _ => simp [children, sizes, size, Statement.size]
  | statement (.block e _ body elseBody) blocks =>
    rw [children, sizes, sizes_statements, statementSizes_append, sizes_getD]
    simp only [size, Statement.size]
    omega
  | expression (.literal _) _ => simp [children, sizes, size, Expression.size]
  | expression (.path _) _ => simp [children, sizes, size, Expression.size]
  | expression (.call _ arguments) calls =>
    rw [children, sizes_expressions]
    simp only [size, Expression.size]
    omega

end Template.Node

namespace Template

/-- The largest depth among `deepest`, the nodes of the stack and all that is below them. -/
def walk (deepest : Nat) : List Node → Nat
  | [] => deepest
  | node :: stack => walk (max deepest node.depth) (node.children.reverse ++ stack)
termination_by stack => Node.sizes stack
decreasing_by
  have := Node.sizes_children_lt node
  rw [Node.sizes_append, Node.sizes_reverse, Node.sizes]
  omega

def nestingDepth (t : Template) : Nat :=
  walk 0 (t.statements.map (Node.statement · 0)).reverse

end Template

end Stencil
