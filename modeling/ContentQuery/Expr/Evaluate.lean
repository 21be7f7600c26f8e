/-
# Evaluation of closed expressions

An expression that does not look at the current item may have a value before the query is sent.
The connectives and the conditional look only at the operands they need, so an operand without a
value does no harm where it is not needed.
-/

import ContentQuery.Expr.Basic

namespace ContentQuery

/-- The outcome of a comparison of two literals. Literals without an order are equal when their
structures are; the four inequalities need an order. -/
def Comparison.holds? (op : Comparison) (left right : Literal) : Option Bool :=
  let order := left.compare? right
  match op with
  | .eq => some ((order.map Ordering.isEq).getD (left == right))
  | .ne => some ((order.map Ordering.isNe).getD (left != right))
  | .gt => order.map Ordering.isGT
  | .ge => order.map Ordering.isGE
  | .lt => order.map Ordering.isLT
  | .le => order.map Ordering.isLE

/-- The members of a reference that have a value: its number, when it fits an integer literal, and
its path. -/
def ContentRef.member? (reference : ContentRef) (name : String) : Option Literal :=
  if name = "Id" then
    reference.id.bind fun id =>
      if id.toNat ≤ Literal.maxInt then some (.int (Int64.ofNat id.toNat)) else none
  else if name = "Path" then reference.path.map .text
  else none

namespace Expr

/-- The value of an expression, when its shape has one. -/
def evaluate? : Expr → Option Literal
  | literal value | captured _ value => some value
  | connect .and left right =>
    match (evaluate? left).bind Literal.asBool? with
    | some true => ((evaluate? right).bind Literal.asBool?).map .bool
    | some false => some (.bool false)
    | none => none
  | connect .or left right =>
    match (evaluate? left).bind Literal.asBool? with
    | some true => some (.bool true)
    | some false => ((evaluate? right).bind Literal.asBool?).map .bool
    | none => none
  | compare op left right =>
    match evaluate? left, evaluate? right with
    | some left, some right => (op.holds? left right).map .bool
    | _, _ => none
  | not operand => ((evaluate? operand).bind Literal.asBool?).map fun value => .bool !value
  | conditional test positive negative =>
    match (evaluate? test).bind Literal.asBool? with
    | some true => evaluate? positive
    | some false => evaluate? negative
    | none => none
  | convert operand false => evaluate? operand
  | member target name _ =>
    match evaluate? target with
    | some (.content reference) => reference.member? name
    | _ => none
  | _ => none

end Expr

end ContentQuery
