/-
# Conditions with a predicate of their own

Comparisons of a field with a literal, and the calls that the search endpoint has a word for.
Where something is no such condition, the error names the whole condition, or the argument at
fault.
-/

import ContentQuery.Chain.FieldName
import ContentQuery.Error
import ContentQuery.Predicate.Basic

namespace ContentQuery

/-- The comparable form of a literal, or the error that it refers to no item. -/
def Literal.comparable (value : Literal) : Except QueryError Literal :=
  match value.comparable? with
  | some value => .ok value
  | none => .error .unresolvableReference

/-- The lower-cased name that a literal gives a type by. -/
def Literal.typeTerm? : Literal → Option String
  | .type name | .text name => some (Text.lowerCase name)
  | _ => none

namespace Predicate

/-- The comparison of a field with a literal in comparable form. A list is compared with nothing,
and null has no order. -/
def ofComparison? (field : String) (op : Comparison) (value : Literal) : Option Predicate :=
  if value.isList then none
  else match op with
    | .eq => some (hasValue field value)
    | .ne => some (negate (hasValue field value))
    | .gt => if value.isNull then none else some (lowerBound field value true)
    | .ge => if value.isNull then none else some (lowerBound field value false)
    | .lt => if value.isNull then none else some (upperBound field value true)
    | .le => if value.isNull then none else some (upperBound field value false)

/-- The operands of a comparison as a field and a literal. When the literal is on the left the
comparison is flipped. -/
def comparisonOperands? (op : Comparison) (left right : Expr) :
    Option (String × Comparison × Literal) :=
  match left.fieldName?, right.stripConversions with
  | some field, .literal value => some (field, op, value)
  | _, _ =>
    match left.stripConversions, right.fieldName? with
    | .literal value, some field => some (field, op.flipped, value)
    | _, _ => none

/-- The predicate of a comparison; `site` is the comparison itself. -/
def ofComparison (op : Comparison) (left right site : Expr) : Except QueryError Predicate := do
  match comparisonOperands? op left right with
  | none => .error (.unsupported site)
  | some (field, op, value) =>
    match ofComparison? field op (← value.comparable) with
    | some p => .ok p
    | none => .error (.unsupported site)

/-- The field that an expression names, or the error that names the whole condition. -/
def fieldOf (e site : Expr) : Except QueryError String :=
  match e.fieldName? with
  | some field => .ok field
  | none => .error (.unsupported site)

/-- The text that a pattern is made of; stars and all else in it go through as they are. -/
def patternOf : Expr → Except QueryError String
  | .literal (.text text) => .ok text
  | other => .error (.unsupported other)

/-- The lower-cased path that a text or a reference stands for. -/
def pathOf : Expr → Except QueryError String
  | .literal (.text path) => .ok (Text.lowerCase path)
  | .literal (.content reference) =>
    match reference.pathTerm? with
    | some path => .ok path
    | none => .error .unresolvableReference
  | other => .error (.unsupported other)

/-- A clause of an alternative: the field has the value. -/
def alternative (field : String) (value : Literal) : Except QueryError (Occurrence × Predicate) :=
  value.comparable.map fun value => (.should, hasValue field value)

/-- A field has one of several values; of no values it has none. -/
def anyOf (field : String) (values : List Literal) : Except QueryError Predicate :=
  if values.isEmpty then .ok matchNone
  else (values.mapM (alternative field)).map group

/-- The predicate of a pattern on a field, with what comes before and after the text. -/
def ofPattern (target argument site : Expr) (before after : String) :
    Except QueryError Predicate := do
  let field ← fieldOf target site
  return wildcard field (before ++ (← patternOf argument) ++ after)

/-- The predicate of a membership in a literal list, or else of a text inside a field. -/
def ofContains (receiver argument site : Expr) : Except QueryError Predicate :=
  match receiver with
  | .literal (.list values) => do anyOf (← fieldOf argument site) values
  | target => ofPattern target argument site "*" "*"

/-- The predicate of an equality that is written as a call; a list is equal to no field. -/
def ofEquals (receiver argument site : Expr) : Except QueryError Predicate :=
  match argument with
  | .literal value =>
    if value.isList then .error (.unsupported site)
    else do
      let field ← fieldOf receiver site
      return hasValue field (← value.comparable)
  | _ => .error (.unsupported site)

/-- The predicate of a place in the tree. -/
def ofPlace (method : String) (receiver argument site : Expr) : Except QueryError Predicate :=
  if receiver.isItem then do return hasValue method (.text (← pathOf argument))
  else .error (.unsupported site)

/-- The predicate of a type. -/
def ofTypeTest (method : String) (receiver argument site : Expr) : Except QueryError Predicate :=
  match receiver, argument with
  | .item, .literal value =>
    match value.typeTerm? with
    | some name => .ok (hasValue method (.text name))
    | none => .error (.unsupported site)
  | _, _ => .error (.unsupported site)

/-- The predicate of a call; `site` is the call itself. -/
def ofCall (receiver : Expr) (method : String) (arguments : List Expr) (site : Expr) :
    Except QueryError Predicate :=
  match arguments with
  | [argument] =>
    match method with
    | "StartsWith" => ofPattern receiver argument site "" "*"
    | "EndsWith" => ofPattern receiver argument site "*" ""
    | "Contains" => ofContains receiver argument site
    | "Equals" => ofEquals receiver argument site
    | "InTree" => ofPlace "InTree" receiver argument site
    | "InFolder" => ofPlace "InFolder" receiver argument site
    | "TypeIs" => ofTypeTest "TypeIs" receiver argument site
    | "Type" => ofTypeTest "Type" receiver argument site
    | _ => .error (.unsupported site)
  | _ => .error (.unsupported site)

end Predicate

end ContentQuery
