/-
# The discipline of the condition stack

`Condition` shows that putting a condition on the stack pushes the entry that a recursion without a
stack computes. This module draws the consequences for a whole run. A condition works above the
entries that were there before it: each combination and each negation on the way finds the entries
that it takes among those that the condition itself has pushed. A chain keeps at most one entry
from one operator to the next, so its filters can always be merged and its draft can always be
finished. The errors for a stack that is too low, or that holds too much at the end, are never
raised.
-/

import ContentQuery.Proofs.Chain
import ContentQuery.Proofs.PositiveClause

namespace ContentQuery

open Outcome

namespace Stack

/-- The operations that fail on a stack that is too low. -/
inductive Operation
  /-- Takes two entries and pushes their combination. -/
  | combine
  /-- Takes one entry and pushes its negation. -/
  | negate
deriving DecidableEq, Repr

/-- How many entries an operation takes. -/
def Operation.demand : Operation → Nat
  | combine => 2
  | negate => 1

/-- `Performs condition stack operation before` says that on the way of putting `condition` on
`stack` the operation is performed, and that it finds the stack `before`. There is one rule for
each call that `pushCondition` makes, and the stacks between the calls are the ones it leaves. -/
inductive Performs : Expr → Stack → Operation → Stack → Prop
  | lambda {body : Expr} {stack before : Stack} {operation : Operation}
      (hbody : Performs body stack operation before) :
      Performs (.lambda body) stack operation before
  | left {op : Connective} {left right : Expr} {stack before : Stack} {operation : Operation}
      (hleft : Performs left stack operation before) :
      Performs (.connect op left right) stack operation before
  | right {op : Connective} {left right : Expr} {stack middle before : Stack}
      {operation : Operation} (hleft : stack.pushCondition left = .ok middle)
      (hright : Performs right middle operation before) :
      Performs (.connect op left right) stack operation before
  | combine {op : Connective} {left right : Expr} {stack middle before : Stack}
      (hleft : stack.pushCondition left = .ok middle)
      (hright : middle.pushCondition right = .ok before) :
      Performs (.connect op left right) stack .combine before
  | operand {operand : Expr} {stack before : Stack} {operation : Operation}
      (hoperand : Performs operand stack operation before) :
      Performs (.not operand) stack operation before
  | negate {operand : Expr} {stack before : Stack}
      (hoperand : stack.pushCondition operand = .ok before) :
      Performs (.not operand) stack .negate before
  | choice {test positive negative : Expr} {stack before : Stack} {operation : Operation}
      (hchoice : Performs (Expr.asChoice test positive negative) stack operation before) :
      Performs (.conditional test positive negative) stack operation before

/-- A condition that is put on the stack pushes one entry and leaves the rest alone. -/
theorem pushCondition_ok {condition : Expr} {stack pushed : Stack}
    (hpush : stack.pushCondition condition = .ok pushed) :
    ∃ entry, condition.entry = .ok entry ∧ pushed = entry :: stack := by
  rw [pushCondition_eq] at hpush
  obtain ⟨entry, hentry, hpushed⟩ := map_eq_ok.mp hpush
  exact ⟨entry, hentry, hpushed.symm⟩

/-- What an operation takes lies above the entries that were there before the condition. -/
theorem Performs.above {condition : Expr} {stack before : Stack} {operation : Operation}
    (hperforms : Performs condition stack operation before) :
    ∃ above : Stack, before = above ++ stack ∧ operation.demand ≤ above.length := by
  induction hperforms with
  | lambda _ ih => exact ih
  | left _ ih => exact ih
  | right hleft _ ih =>
      obtain ⟨entry, -, rfl⟩ := pushCondition_ok hleft
      obtain ⟨above, rfl, hdemand⟩ := ih
      refine ⟨above ++ [entry], (List.append_cons above entry _), ?_⟩
      rw [List.length_append]
      exact Nat.le_add_right_of_le hdemand
  | combine hleft hright =>
      obtain ⟨first, -, rfl⟩ := pushCondition_ok hleft
      obtain ⟨second, -, rfl⟩ := pushCondition_ok hright
      exact ⟨[second, first], rfl, Nat.le_refl 2⟩
  | operand _ ih => exact ih
  | negate hoperand =>
      obtain ⟨entry, -, rfl⟩ := pushCondition_ok hoperand
      exact ⟨[entry], rfl, Nat.le_refl 1⟩
  | choice _ ih => exact ih

/-- Merging looks at the height of the stack first, so it finds both of its entries. -/
theorem mergeFilter_isOk (site : Expr) (stack : Stack) :
    ∃ merged, stack.mergeFilter site = .ok merged := by
  cases stack with
  | nil => exact ⟨[], rfl⟩
  | cons entry rest => exact ⟨Stack.withFilter rest entry, mergeFilter_cons site entry rest⟩

theorem Conjoins.length_le_one {stack : Stack} {ps : List Predicate}
    (hstack : stack.Conjoins ps) : stack.length ≤ 1 := by
  calc stack.length
      = (stack.map Entry.toPredicate).length := (List.length_map _).symm
    _ = (Predicate.conjunction? ps).toList.length := congrArg List.length hstack
    _ ≤ 1 := by
      cases Predicate.conjunction? ps with
      | none => exact Nat.zero_le 1
      | some p => exact Nat.le_refl 1

end Stack

namespace Draft

/-- Puts a condition on the stack of a draft. -/
def pushCondition (draft : Draft) (condition : Expr) : Except QueryError Draft := do
  return { draft with conditions := ← draft.conditions.pushCondition condition }

/-- The step on a draft, with everything that it leaves alone. -/
theorem pushCondition_eq (draft : Draft) (condition : Expr) :
    draft.pushCondition condition =
      (fun entry => { draft with conditions := entry :: draft.conditions }) <$>
        condition.entry := by
  rw [pushCondition, Stack.pushCondition_eq]
  cases condition.entry <;> rfl

/-- The stack machine is the recursion without a stack, and never runs out of entries or keeps too
many. From any draft a condition pushes its one entry, a bare field or a predicate by its shape, or
fails with the error of the recursion; what it combines or negates on the way lies above the
entries of the draft. Between the operators of a chain there is at most one entry, so filters merge
and drafts finish. -/
theorem stack_refines_recursion :
    (∀ (draft : Draft) (condition : Expr), draft.pushCondition condition =
        (fun entry => { draft with conditions := entry :: draft.conditions }) <$>
          condition.entry) ∧
      (∀ (condition : Expr) (entry : Entry), condition.entry = .ok entry →
        entry.isFlag = condition.isFlag) ∧
      (∀ (condition : Expr) (stack before : Stack) (operation : Stack.Operation),
        Stack.Performs condition stack operation before →
          ∃ above : Stack, before = above ++ stack ∧ operation.demand ≤ above.length) ∧
      (∀ (site : Expr) (stack : Stack), ∃ merged, stack.mergeFilter site = .ok merged) ∧
      ∀ (chain : Expr) (draft : Draft), start.addChain chain = .ok draft →
        draft.conditions.length ≤ 1 ∧ ∀ site, ∃ query, draft.finish site = .ok query := by
  refine ⟨pushCondition_eq, ?_, ?_, Stack.mergeFilter_isOk, ?_⟩
  · intro condition entry hentry
    exact (Expr.entryForm_of_entry hentry).fits.flag
  · intro condition stack before operation hperforms
    exact hperforms.above
  · intro chain draft hadd
    obtain ⟨ps, -, hconjoins⟩ := addChain_conjoins hadd
    exact ⟨hconjoins.length_le_one, fun site => ⟨_, finish_eq hconjoins site⟩⟩

/-- A disjunction of two bare fields, one of them negated, above a bare field that an earlier filter
has left: the negated field stays a field, the disjunction takes its own two entries, and a chain
of such filters keeps one entry. -/
theorem stack_refines_recursion_of_open_flag :
    (Entry.flag "Hidden" false).isFlag = (Expr.not (.field "Hidden")).isFlag ∧
      (∃ above : Stack,
        ([.flag "Public" true, .flag "Hidden" false, .flag "Open" true] : Stack) =
            above ++ [.flag "Open" true] ∧
          Stack.Operation.combine.demand ≤ above.length) ∧
      ∃ draft, start.addChain (((Expr.source "User").call "Where" [.lambda (.field "Open")]).call
          "Where" [.lambda (.or (.not (.field "Hidden")) (.field "Public"))]) = .ok draft ∧
        draft.conditions.length ≤ 1 := by
  obtain ⟨-, hflag, habove, -, hchain⟩ := stack_refines_recursion
  have hleft : Stack.pushCondition (.not (.field "Hidden")) [.flag "Open" true] =
      .ok [.flag "Hidden" false, .flag "Open" true] := by
    rw [Stack.pushCondition_eq]
    rfl
  have hright : Stack.pushCondition (.field "Public") [.flag "Hidden" false, .flag "Open" true] =
      .ok [.flag "Public" true, .flag "Hidden" false, .flag "Open" true] := by
    rw [Stack.pushCondition_eq]
    rfl
  have hadd : start.addChain (((Expr.source "User").call "Where" [.lambda (.field "Open")]).call
      "Where" [.lambda (.or (.not (.field "Hidden")) (.field "Public"))]) =
        .ok ⟨[.predicate (.must (.hasValue "Open" (.bool true)) (.should
          (.hasValue "Hidden" (.bool false)) (.hasValue "Public" (.bool true))))],
          Query.all, none⟩ := by
    cbv
  refine ⟨hflag _ _ rfl, ?_, _, hadd, (hchain _ _ hadd).1⟩
  exact habove (.or (.not (.field "Hidden")) (.field "Public")) _ _ _ (.combine hleft hright)

end Draft

end ContentQuery
