/-
# Conditions

The conditions of a chain are put together on a stack. A condition leaves one entry there: a
predicate, or a bare Boolean field that is not a predicate yet. A field stays bare for as long as
it may still be negated, since the negation of a field being true is the field being false. A
connective takes two entries and leaves their combination.
-/

import ContentQuery.Chain.Keyword
import ContentQuery.Chain.Operator
import ContentQuery.Expr.Build

namespace ContentQuery

namespace Expr

/-- The choice of a conditional, said with connectives: the test holds and so does the first
branch, or the test fails and the second branch holds. -/
def asChoice (test positive negative : Expr) : Expr :=
  or (and test positive) (and (not test) negative)

/-- A measure of the work that a condition makes. A conditional has its test done twice, so the
test counts twice in it. -/
def weight : Expr → Nat
  | lambda body => body.weight + 1
  | connect _ left right => left.weight + right.weight + 1
  | not operand => operand.weight + 1
  | conditional test positive negative =>
    2 * test.weight + positive.weight + negative.weight + 5
  | _ => 1

/-- The choice that stands for a conditional is less work than the conditional. -/
theorem weight_asChoice_lt (test positive negative : Expr) :
    (asChoice test positive negative).weight < (conditional test positive negative).weight := by
  simp only [asChoice, or, and, weight]; omega

end Expr

/-- An entry of the stack. -/
inductive Entry
  | predicate (p : Predicate)
  /-- A bare Boolean field, and the value that it is to have. -/
  | flag (field : String) (value : Bool)

/-- The predicate that an entry stands for. -/
def Entry.toPredicate : Entry → Predicate
  | predicate p => p
  | flag field value => .hasValue field (.bool value)

/-- The entries of a chain's conditions, the last one first. -/
abbrev Stack := List Entry

namespace Stack

/-- Puts a predicate on the stack. -/
def push (stack : Stack) (p : Predicate) : Stack := .predicate p :: stack

/-- Takes the last entry as a predicate; an empty stack is an error at `site`. -/
def pop (site : Expr) : Stack → Except QueryError (Predicate × Stack)
  | entry :: rest => .ok (entry.toPredicate, rest)
  | [] => .error (.unsupported site)

/-- Takes the last two entries and puts their combination in their place. -/
def combine (op : Connective) (site : Expr) (stack : Stack) : Except QueryError Stack := do
  let (right, stack) ← stack.pop site
  let (left, stack) ← stack.pop site
  return stack.push (match op with
    | .and => .must left right
    | .or => .should left right)

/-- Negates the last entry; the value of a bare field is flipped in its place. -/
def negate (site : Expr) : Stack → Except QueryError Stack
  | .flag field value :: rest => .ok (.flag field (!value) :: rest)
  | .predicate p :: rest => .ok (.predicate p.negate :: rest)
  | [] => .error (.unsupported site)

/-- Joins the filter that was put on last with the filter that the chain had before, the earlier
one staying first. -/
def mergeFilter (site : Expr) (stack : Stack) : Except QueryError Stack :=
  if 1 < stack.length then stack.combine .and site else .ok stack

/-- Makes a predicate of every bare field. -/
def lowered (stack : Stack) : Stack := stack.map fun entry => .predicate entry.toPredicate

/-- The predicate of a call as a condition. An operator that only works in memory is refused by
name, whatever it is called on; a call without a receiver is no condition. -/
def callPredicate (receiver : Option Expr) (method : String) (arguments : List Expr)
    (site : Expr) : Except QueryError Predicate :=
  if Operator.isDisallowed method then .error (.disallowedOperator method)
  else match receiver with
    | some receiver => Predicate.ofCall receiver method arguments site
    | none => .error (.unsupported site)

/-- Puts a condition on the stack. -/
def pushCondition (condition : Expr) (stack : Stack) : Except QueryError Stack := do
  match condition with
  | .lambda body => pushCondition body stack
  | .connect op left right =>
    let stack ← pushCondition left stack
    let stack ← pushCondition right stack
    stack.combine op condition
  | .compare op left right => return stack.push (← Predicate.ofComparison op left right condition)
  | .not operand =>
    let stack ← pushCondition operand stack
    stack.negate condition
  | .conditional test positive negative =>
    pushCondition (Expr.asChoice test positive negative) stack
  | .literal (.bool value) =>
    return stack.push (if value then Predicate.matchAll else Predicate.matchNone)
  | .call receiver method arguments =>
    return stack.push (← callPredicate (some receiver) method arguments condition)
  | .invoke function arguments =>
    return stack.push (← callPredicate none function arguments condition)
  | other =>
    match other.fieldName? with
    | some field => return .flag field true :: stack
    | none => .error (.unsupported other)
termination_by condition.weight
decreasing_by
  · simp only [Expr.weight]; omega
  · simp only [Expr.weight]; omega
  · simp only [Expr.weight]; omega
  · simp only [Expr.weight]; omega
  · exact Expr.weight_asChoice_lt test positive negative

end Stack

end ContentQuery
