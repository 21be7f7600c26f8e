/-
# Projections

A projection asks for fields by chains of members that start at the current item. Each chain is a
path, its names joined by slashes. The paths make the list of fields to select; the parts of them
that end at a reference make the list of fields to expand. A field that another requested field
lies below comes with it and is left out.
-/

import ContentQuery.Error
import ContentQuery.Expr.Build

namespace ContentQuery

/-- A step of a path: the name of a member, and what the member holds. -/
structure PathStep where
  name : String
  kind : MemberKind
deriving DecidableEq, Repr

/-- The fields that a projection selects and expands. -/
structure Projection where
  select : List String
  expand : List String
deriving DecidableEq, Repr

namespace Projection

/-- The steps from the current item to an expression; none when it is no chain of members. -/
def stepsTo? : Expr → Option (List PathStep)
  | .item => some []
  | .member target name kind => (stepsTo? target).map (· ++ [⟨name, kind⟩])
  | .index target key => (stepsTo? target).map (· ++ [⟨key, .scalar⟩])
  | _ => none

/-- An expression without the one conversion that may stand around it. -/
def stripConversion : Expr → Expr
  | .convert operand _ => operand
  | e => e

/-- The steps that an argument of a projection asks for; there is at least one. -/
def argumentSteps? (argument : Expr) : Option (List PathStep) :=
  match stepsTo? (stripConversion argument) with
  | some (step :: steps) => some (step :: steps)
  | _ => none

/-- A path with one name more; the points in a name are slashes in the path. -/
def joinPath (path name : String) : String :=
  (if path = "" then "" else path ++ "/") ++ name.map fun c => if c = '.' then '/' else c

/-- A list with a path at its end, unless it is in the list. -/
def pushUnique (list : List String) (path : String) : List String :=
  if list.contains path then list else list ++ [path]

/-- Follows the steps of a path; the paths that end at a reference are added to the fields to
expand. -/
def followSteps (path : String) (expand : List String) : List PathStep → String × List String
  | [] => (path, expand)
  | step :: steps =>
    let path := joinPath path step.name
    followSteps path (if step.kind = .reference then pushUnique expand path else expand) steps

/-- Adds the fields of one argument. -/
def addArgument (projection : Projection) (steps : List PathStep) : Projection :=
  let (path, expand) := followSteps "" projection.expand steps
  ⟨pushUnique projection.select path, expand⟩

/-- Adds the fields of all arguments from a position on. -/
def addArguments (projection : Projection) (position : Nat) :
    List Expr → Except QueryError Projection
  | [] => .ok projection
  | argument :: rest =>
    match argumentSteps? argument with
    | some steps => addArguments (projection.addArgument steps) (position + 1) rest
    | none => .error (.unsupportedArgument position argument)

/-- Whether a path lies below another one. -/
def isBelow (path parent : String) : Bool := (parent ++ "/").toList.isPrefixOf path.toList

/-- A projection without the selected fields that others lie below. -/
def minimal (projection : Projection) : Projection :=
  { projection with
    select := projection.select.filter fun parent =>
      !projection.select.any fun path => isBelow path parent }

/-- The projection that the body of a selection asks for. -/
def ofBody (body : Expr) : Except QueryError Projection :=
  match body with
  | .invoke function arguments =>
    if function = "Project" then (addArguments ⟨[], []⟩ 0 arguments).map minimal
    else .error (.unsupported body)
  | _ => .error (.unsupported body)

end Projection

end ContentQuery
