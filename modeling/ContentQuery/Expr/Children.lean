/-
# Children of an expression

Walks over expressions that treat all nodes alike go through two functions: the children of a node
from left to right, the receiver of a call first, and the node with other children in their
places. Each undoes the other. Recursion along `children` ends, as a child is smaller than its
node.
-/

import ContentQuery.Expr.Basic

namespace ContentQuery.Expr

/-- The children of a node, in the order in which they are evaluated. -/
def children : Expr → List Expr
  | source _ | item | literal _ | captured _ _ => []
  | member target _ _ | index target _ => [target]
  | compare _ left right | connect _ left right => [left, right]
  | not operand | lambda operand => [operand]
  | conditional test positive negative => [test, positive, negative]
  | convert operand _ => [operand]
  | call receiver _ arguments => receiver :: arguments
  | invoke _ arguments => arguments

/-- The first `count` expressions of a list; where the list is too short, the current item stands
in. -/
def fill : Nat → List Expr → List Expr
  | 0, _ => []
  | count + 1, replacements => replacements.headD item :: fill count replacements.tail

/-- A node with its children replaced, in the order of `children`. -/
def withChildren (e : Expr) (replacements : List Expr) : Expr :=
  let child (i : Nat) := replacements.getD i item
  match e with
  | source _ | item | literal _ | captured _ _ => e
  | member _ name kind => member (child 0) name kind
  | index _ key => index (child 0) key
  | compare op _ _ => compare op (child 0) (child 1)
  | connect op _ _ => connect op (child 0) (child 1)
  | not _ => not (child 0)
  | lambda _ => lambda (child 0)
  | conditional _ _ _ => conditional (child 0) (child 1) (child 2)
  | convert _ nullable => convert (child 0) nullable
  | call _ method arguments =>
    call (child 0) method (fill arguments.length (replacements.drop 1))
  | invoke function arguments => invoke function (fill arguments.length replacements)

/-- A child is smaller than its node. -/
theorem sizeOf_lt_of_mem_children {child e : Expr} (h : child ∈ e.children) :
    sizeOf child < sizeOf e := by
  cases e with
  | call receiver method arguments =>
    simp only [children, List.mem_cons] at h
    rcases h with rfl | h
    · simp only [call.sizeOf_spec]; omega
    · have := List.sizeOf_lt_of_mem h
      simp only [call.sizeOf_spec]; omega
  | invoke function arguments =>
    have mem : child ∈ arguments := h
    have := List.sizeOf_lt_of_mem mem
    simp only [invoke.sizeOf_spec]; omega
  | source _ | item | literal _ | captured _ _ => simp [children] at h
  | member _ _ _ | index _ _ | not _ | lambda _ | convert _ _ =>
    simp only [children, List.mem_singleton] at h
    subst h
    simp only [member.sizeOf_spec, index.sizeOf_spec, not.sizeOf_spec, lambda.sizeOf_spec,
      convert.sizeOf_spec]
    omega
  | compare _ _ _ | connect _ _ _ =>
    simp only [children, List.mem_cons, List.not_mem_nil, or_false] at h
    rcases h with rfl | rfl
    all_goals simp only [compare.sizeOf_spec, connect.sizeOf_spec]; omega
  | conditional _ _ _ =>
    simp only [children, List.mem_cons, List.not_mem_nil, or_false] at h
    rcases h with rfl | rfl | rfl
    all_goals simp only [conditional.sizeOf_spec]; omega

/-- Induction along the children. -/
theorem induction_on_children {motive : Expr → Prop}
    (step : ∀ e : Expr, (∀ child ∈ e.children, motive child) → motive e) (e : Expr) : motive e :=
  step e fun child _ => induction_on_children step child
termination_by sizeOf e
decreasing_by exact sizeOf_lt_of_mem_children ‹_›

end ContentQuery.Expr
