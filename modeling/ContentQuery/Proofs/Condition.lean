/-
# Conditions without a stack

Putting a condition on the stack pushes one entry and leaves the entries below it alone. The entry
is what a recursion over the condition computes that knows no stack: a bare field and its
negations stay a flag, everything else is a predicate. Errors are the same on both sides, and so
is the order in which they are found.

The recursion compiles the test of a conditional once; the stack compiles it twice, which can make
no difference, as the second time succeeds like the first.
-/

import ContentQuery.Chain.Condition

namespace ContentQuery

namespace Entry

/-- The negation of an entry; a bare field is negated in its value. -/
def negate : Entry → Entry
  | flag field value => flag field (!value)
  | predicate p => predicate p.negate

/-- The combination of two entries by a connective. -/
def join (op : Connective) (left right : Entry) : Entry :=
  predicate (match op with
    | .and => .must left.toPredicate right.toPredicate
    | .or => .should left.toPredicate right.toPredicate)

end Entry

namespace Expr

/-- The entry that a condition stands for. -/
def entry : Expr → Except QueryError Entry
  | lambda body => body.entry
  | connect op left right => do
    let left ← left.entry
    let right ← right.entry
    return .join op left right
  | compare op left right =>
    .predicate <$> Predicate.ofComparison op left right (compare op left right)
  | not operand => Entry.negate <$> operand.entry
  | conditional test positive negative => do
    let test ← test.entry
    let positive ← positive.entry
    let negative ← negative.entry
    return .join .or (.join .and test positive) (.join .and test.negate negative)
  | literal (.bool value) =>
    return .predicate (if value then Predicate.matchAll else Predicate.matchNone)
  | call receiver method arguments =>
    .predicate <$>
      Stack.callPredicate (some receiver) method arguments (call receiver method arguments)
  | invoke function arguments =>
    .predicate <$> Stack.callPredicate none function arguments (invoke function arguments)
  | other =>
    match other.fieldName? with
    | some field => return .flag field true
    | none => .error (.unsupported other)

/-- The predicate that a condition stands for. -/
def predicate (e : Expr) : Except QueryError Predicate := Entry.toPredicate <$> e.entry

/-- A conditional has the entry of the choice that stands for it. -/
theorem entry_asChoice (test positive negative : Expr) :
    (asChoice test positive negative).entry = (conditional test positive negative).entry := by
  rw [asChoice, or, and, and, entry, entry, entry, entry, entry]
  cases test.entry with
  | error error => rfl
  | ok test =>
      cases positive.entry with
      | error error => rfl
      | ok positive =>
          cases negative.entry <;> rfl

end Expr

namespace Stack

theorem negate_cons (site : Expr) (entry : Entry) (stack : Stack) :
    negate site (entry :: stack) = .ok (entry.negate :: stack) := by
  cases entry <;> rfl

theorem combine_cons (op : Connective) (site : Expr) (left right : Entry) (stack : Stack) :
    combine op site (right :: left :: stack) = .ok (.join op left right :: stack) := by
  cases op <;> rfl

/-- The stack with a filter more: the filter joins the one that is there. -/
def withFilter : Stack → Entry → Stack
  | [], entry => [entry]
  | earlier :: rest, entry => .join .and earlier entry :: rest

theorem mergeFilter_cons (site : Expr) (entry : Entry) (stack : Stack) :
    mergeFilter site (entry :: stack) = .ok (stack.withFilter entry) := by
  cases stack with
  | nil => rfl
  | cons earlier rest => exact combine_cons .and site earlier entry rest

/-- The stack refines the recursion: a condition pushes its entry, or fails with its error. -/
theorem pushCondition_eq (condition : Expr) (stack : Stack) :
    stack.pushCondition condition = (· :: stack) <$> condition.entry := by
  induction condition, stack using pushCondition.induct with
  | case1 stack body ih => rw [pushCondition, Expr.entry, ih]
  | case2 stack op left right ihleft ihright =>
      rw [pushCondition, Expr.entry, ihleft]
      cases left.entry with
      | error error => rfl
      | ok leftEntry =>
          show (do
            let stack ← pushCondition right (leftEntry :: stack)
            stack.combine op (.connect op left right)) = _
          rw [ihright]
          cases right.entry with
          | error error => rfl
          | ok rightEntry =>
              exact combine_cons op (.connect op left right) leftEntry rightEntry stack
  | case3 stack op left right =>
      rw [pushCondition, Expr.entry]
      cases Predicate.ofComparison op left right (.compare op left right) <;> rfl
  | case4 stack operand ih =>
      rw [pushCondition, Expr.entry, ih]
      cases operand.entry with
      | error error => rfl
      | ok entry => exact negate_cons _ entry stack
  | case5 stack test positive negative ih =>
      rw [pushCondition, ih, Expr.entry_asChoice]
  | case6 stack value => rw [pushCondition, Expr.entry]; rfl
  | case7 stack receiver method arguments =>
      rw [pushCondition, Expr.entry]
      cases callPredicate (some receiver) method arguments (.call receiver method arguments) <;> rfl
  | case8 stack function arguments =>
      rw [pushCondition, Expr.entry]
      cases callPredicate none function arguments (.invoke function arguments) <;> rfl
  | case9 stack other hlambda hconnect hcompare hnot hconditional hliteral hcall hinvoke field
      hfield =>
      rw [pushCondition, Expr.entry, hfield]
      rfl
      all_goals assumption
  | case10 stack other hlambda hconnect hcompare hnot hconditional hliteral hcall hinvoke hfield =>
      rw [pushCondition, Expr.entry, hfield]
      rfl
      all_goals assumption

end Stack

end ContentQuery
