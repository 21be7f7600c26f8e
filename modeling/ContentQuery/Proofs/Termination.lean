/-
# The recursion of conditions ends

A condition is put on the stack part by part, except that a conditional is put there as the choice
that stands for it. The choice is a new tree, larger than the conditional, in which the test stands
twice and may be a conditional again. So the size of the condition does not show that this ends; its
weight does, which counts the test of a conditional twice.

To speak of the calls of `pushCondition`, its recursion is opened. A turn is what is done with one
condition, where a function that is given answers the calls. This module proves that a turn asks for
nothing but the calls of the relation `Calls`, that each of them is on less weight, and that turns
put into one another, as many as the condition has weight, are `pushCondition`, whatever answers the
calls of the innermost one.
-/

import Mathlib
import ContentQuery.Chain.Condition
import ContentQuery.Proofs.FoldCursor

namespace ContentQuery

namespace Expr

theorem weight_pos (e : Expr) : 0 < e.weight := by
  cases e <;> simp only [weight] <;> omega

/-- The choice that stands for a conditional has all of its nodes, those of the test once more, and
three nodes more for the connectives. -/
theorem length_nodes_asChoice (test positive negative : Expr) :
    (asChoice test positive negative).nodes.length =
      (conditional test positive negative).nodes.length + test.nodes.length + 3 := by
  simp only [asChoice, or, and, nodes_eq (connect _ _ _), nodes_eq (not _),
    nodes_eq (conditional _ _ _), children, List.flatMap_cons, List.flatMap_nil, List.length_cons,
    List.length_append, List.length_nil]
  omega

end Expr

namespace Stack

/-- A way to put conditions on a stack. -/
abbrev Visit := Expr → Stack → Except QueryError Stack

/-- One turn of `pushCondition`, with the calls that it makes answered by `visit`. -/
def turn (visit : Visit) (condition : Expr) (stack : Stack) : Except QueryError Stack := do
  match condition with
  | .lambda body => visit body stack
  | .connect op left right =>
    let stack ← visit left stack
    let stack ← visit right stack
    stack.combine op condition
  | .compare op left right => return stack.push (← Predicate.ofComparison op left right condition)
  | .not operand =>
    let stack ← visit operand stack
    stack.negate condition
  | .conditional test positive negative => visit (Expr.asChoice test positive negative) stack
  | .literal (.bool value) =>
    return stack.push (if value then Predicate.matchAll else Predicate.matchNone)
  | .call receiver method arguments =>
    return stack.push (← callPredicate (some receiver) method arguments condition)
  | .invoke function arguments =>
    return stack.push (← callPredicate none function arguments condition)
  | other =>
    match other.fieldName? with
    | some field => return .flag field true :: stack
    | none => .error (.unsupported other)

/-- `Calls visit condition stack callee below` says that the turn on `condition` and `stack` asks
`visit` to put `callee` on the stack `below`. The second operand of a connective is asked for only
when the first one has been put on the stack. -/
inductive Calls (visit : Visit) : Expr → Stack → Expr → Stack → Prop
  | body {body : Expr} {stack : Stack} : Calls visit (.lambda body) stack body stack
  | left {op : Connective} {left right : Expr} {stack : Stack} :
      Calls visit (.connect op left right) stack left stack
  | right {op : Connective} {left right : Expr} {stack middle : Stack}
      (hleft : visit left stack = .ok middle) :
      Calls visit (.connect op left right) stack right middle
  | operand {operand : Expr} {stack : Stack} : Calls visit (.not operand) stack operand stack
  | choice {test positive negative : Expr} {stack : Stack} :
      Calls visit (.conditional test positive negative) stack
        (Expr.asChoice test positive negative) stack

variable {visit other : Visit} {condition callee : Expr} {stack below : Stack}

/-- Every call is on less weight. -/
theorem Calls.weight_lt (hcalls : Calls visit condition stack callee below) :
    callee.weight < condition.weight := by
  cases hcalls with
  | body => exact Nat.lt_succ_self _
  | left => simp only [Expr.weight]; omega
  | right hleft => simp only [Expr.weight]; omega
  | operand => exact Nat.lt_succ_self _
  | choice => exact Expr.weight_asChoice_lt _ _ _

/-- A turn sees no more of what answers its calls than the answers to them. -/
theorem turn_congr (hagree : ∀ callee below, Calls visit condition stack callee below →
    other callee below = visit callee below) :
    turn other condition stack = turn visit condition stack := by
  cases condition with
  | lambda body => exact hagree body stack .body
  | connect op left right =>
      rw [turn, turn, hagree left stack .left]
      cases hleft : visit left stack with
      | error error => rfl
      | ok middle =>
          show (do
            let stack ← other right middle
            stack.combine op (.connect op left right)) = _
          rw [hagree right middle (.right hleft)]
          rfl
  | not operand => rw [turn, turn, hagree operand stack .operand]
  | conditional test positive negative => exact hagree _ stack .choice
  | literal value => cases value <;> rfl
  | _ => rfl

/-- `pushCondition` is a turn whose calls it answers itself. -/
theorem turn_pushCondition (condition : Expr) (stack : Stack) :
    turn pushCondition condition stack = pushCondition condition stack := by
  rw [pushCondition.eq_def]
  rfl

/-- Turns put into one another are `pushCondition` on every condition that weighs no more than there
are turns: each call that one of them passes on is on less weight, so the innermost has none. -/
theorem iterate_turn {count : Nat} (hweight : condition.weight ≤ count) (stack : Stack) :
    turn^[count] visit condition stack = pushCondition condition stack := by
  induction count generalizing condition stack with
  | zero => exact absurd condition.weight_pos (Nat.not_lt_of_le hweight)
  | succ count ih =>
      rw [Function.iterate_succ_apply', ← turn_pushCondition]
      refine turn_congr fun callee below hcalls => ?_
      exact ih (Nat.le_of_lt_succ (Nat.lt_of_lt_of_le hcalls.weight_lt hweight)) below

/-- Nothing else satisfies the equations of the recursion. -/
theorem eq_pushCondition_of_turn (hsolves : turn visit = visit) : visit = pushCondition := by
  funext condition stack
  rw [← iterate_turn (Nat.le_refl condition.weight) stack, Function.iterate_fixed hsolves]

/-- Putting a condition on the stack ends. Every call is on less weight, also the one that puts the
choice in the place of a conditional, although the choice always has more nodes. A turn depends on
nothing but the answers to these calls, `pushCondition` answers them itself, and so turns that are
put into one another, at least as many as the condition has weight, are `pushCondition`; nothing
else satisfies its equations. -/
theorem every_call_weighs_less :
    (∀ (visit : Visit) (condition callee : Expr) (stack below : Stack),
        Calls visit condition stack callee below → callee.weight < condition.weight) ∧
      (∀ test positive negative : Expr, (Expr.conditional test positive negative).nodes.length <
        (Expr.asChoice test positive negative).nodes.length) ∧
      (∀ (visit other : Visit) (condition : Expr) (stack : Stack),
        (∀ callee below, Calls visit condition stack callee below →
            other callee below = visit callee below) →
          turn other condition stack = turn visit condition stack) ∧
      (∀ (condition : Expr) (stack : Stack),
        turn pushCondition condition stack = pushCondition condition stack) ∧
      (∀ (visit : Visit) (condition : Expr) (stack : Stack) (count : Nat),
        condition.weight ≤ count →
          turn^[count] visit condition stack = pushCondition condition stack) ∧
      ∀ visit : Visit, turn visit = visit → visit = pushCondition := by
  refine ⟨fun _ _ _ _ _ => Calls.weight_lt, ?_, fun _ _ _ _ => turn_congr, turn_pushCondition,
    fun _ _ stack _ hweight => iterate_turn hweight stack, fun _ => eq_pushCondition_of_turn⟩
  intro test positive negative
  rw [Expr.length_nodes_asChoice]
  omega

/-- A conditional whose test is the negation of a conditional. Its choice has nearly twice as many
nodes and is put on the stack with less weight; a turn needs the answers for lighter conditions
only, and as many turns as the weight are enough, even if the innermost fails on everything. -/
theorem every_call_weighs_less_of_nested_tests :
    let test := Expr.not (.conditional (.field "A") (.field "B") (.field "C"))
    let condition := Expr.conditional test (.field "D") (.field "E")
    let choice := Expr.asChoice test (.field "D") (.field "E")
    let fails : Visit := fun condition _ => .error (.unsupported condition)
    let lighter : Visit := fun callee below =>
      if callee.weight < 27 then pushCondition callee below else fails callee below
    condition.nodes.length = 13 ∧ choice.nodes.length = 24 ∧
      Calls pushCondition condition [] choice [] ∧ choice.weight < condition.weight ∧
      turn lighter condition [] = turn pushCondition condition [] ∧
      condition.weight ≤ 27 ∧ turn^[27] fails condition [] = pushCondition condition [] := by
  intro test condition choice fails lighter
  obtain ⟨hless, -, hanswers, -, hturns, -⟩ := every_call_weighs_less
  have hcalls : Calls pushCondition condition [] choice [] := .choice
  have hlighter : turn lighter condition [] = turn pushCondition condition [] := by
    refine hanswers pushCondition lighter condition [] fun callee below hcallee => ?_
    exact if_pos (hless pushCondition condition callee [] below hcallee)
  refine ⟨by cbv, by cbv, hcalls, hless _ _ _ _ _ hcalls, hlighter, Nat.le_refl 27, ?_⟩
  exact hturns fails condition [] 27 (Nat.le_refl 27)

end Stack

end ContentQuery
