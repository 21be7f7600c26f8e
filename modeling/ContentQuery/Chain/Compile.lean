/-
# Compilation of chains

A chain is compiled from its source outward. Filters go to the stack of conditions; sorting,
paging and selection go straight to the query, where a later operator replaces what an earlier one
of its kind said. A terminal ends the chain: it fixes the directives, never widens an earlier
window, and nothing may follow it.
-/

import ContentQuery.Chain.Condition
import ContentQuery.Chain.Projection
import ContentQuery.Expr.Fold

namespace ContentQuery

/-- A query that is being put together from its chain. -/
structure Draft where
  conditions : Stack
  query : Query
  terminal : Option Terminal

namespace Draft

/-- The draft of a chain of no operators. -/
def start : Draft := ⟨[], Query.all, none⟩

/-- The number that an argument list consists of; it must fit a row count. -/
def countOf (arguments : List Expr) (site : Expr) : Except QueryError UInt32 :=
  match arguments with
  | [.literal (.int count)] =>
    if 0 ≤ count.toInt ∧ count.toInt < UInt32.size then .ok (UInt32.ofNat count.toInt.toNat)
    else .error (.unsupported site)
  | _ => .error (.unsupported site)

/-- The field that an argument list sorts by. -/
def sortFieldOf (arguments : List Expr) (site : Expr) : Except QueryError String :=
  match arguments with
  | [argument] =>
    match argument.lambdaBody.fieldName? with
    | some field => .ok field
    | none => .error (.unsupported argument.lambdaBody)
  | _ => .error (.unsupported site)

/-- Adds a filter. -/
def addFilter (draft : Draft) (condition site : Expr) : Except QueryError Draft := do
  let conditions ← draft.conditions.pushCondition condition
  return { draft with conditions := ← conditions.mergeFilter site }

/-- Adds a filter on the type that a literal names. -/
def addTypeFilter (draft : Draft) (value : Literal) (site : Expr) : Except QueryError Draft :=
  match value.typeTerm? with
  | some name => do
    let conditions := draft.conditions.push (.hasValue "TypeIs" (.text name))
    return { draft with conditions := ← conditions.mergeFilter site }
  | none => .error (.unsupported site)

/-- The window of an earlier `top` and a limit of a terminal: the smaller of the two. -/
def narrowed (top : Option UInt32) (limit : UInt32) : UInt32 :=
  match top with
  | some top => if top ≤ limit then top else limit
  | none => limit

/-- The sum of two row counts, the largest row count where it would be more. -/
def saturatingAdd (m n : UInt32) : UInt32 :=
  UInt32.ofNat (Nat.min (m.toNat + n.toNat) (UInt32.size - 1))

/-- The directives of a terminal that takes one item. The first item needs one row, and two are
enough to see that there is more than one. A position is an offset into the chain's own window;
one past the end of that window addresses no row. -/
def pick (query : Query) (selection : Selection) (orDefault : Bool) (index : UInt32) : Query :=
  let query := { query with selection := some selection, throwIfEmpty := !orDefault }
  match selection with
  | .first => { query with top := some (narrowed query.top 1) }
  | .single => { query with top := some (narrowed query.top 2) }
  | .last => query
  | .elementAt =>
    { query with
      elementIndex := some index
      skip := some (saturatingAdd (query.skip.getD 0) index)
      top := match query.top with
        | some top => some (if top ≤ index then 0 else 1)
        | none => some 1 }

/-- The directives of a terminal. The index is that of a terminal that takes a position. -/
def reduce (query : Query) (terminal : Terminal) (index : UInt32) : Query :=
  match terminal with
  | .count => { query with countOnly := true }
  | .any =>
    { query with
      countOnly := true
      existenceOnly := true
      top := some (narrowed query.top 1) }
  | .pick selection orDefault => pick query selection orDefault index

/-- Ends the chain with a terminal. -/
def close (draft : Draft) (terminal : Terminal) (index : UInt32) : Draft where
  conditions := draft.conditions.lowered
  query := reduce draft.query terminal index
  terminal := some terminal

/-- Applies a terminal, with its condition as a last filter where it has one. -/
def applyTerminal (draft : Draft) (terminal : Terminal) (arguments : List Expr) (site : Expr) :
    Except QueryError Draft := do
  match terminal, arguments with
  | .pick .elementAt _, _ => return draft.close terminal (← countOf arguments site)
  | _, [] => return draft.close terminal 0
  | _, [condition] => return (← draft.addFilter condition site).close terminal 0
  | _, _ => .error (.unsupported site)

/-- Applies an operator; `site` is the chain that it ends. -/
def applyOperator (draft : Draft) (operator : Operator) (arguments : List Expr) (site : Expr) :
    Except QueryError Draft := do
  if draft.terminal.isSome then .error (.unsupported site)
  else match operator, arguments with
    | .filter, [condition] => draft.addFilter condition site
    | .ofType, [.literal value] => draft.addTypeFilter value site
    | .orderBy descending, _ =>
      let key := ⟨← sortFieldOf arguments site, descending⟩
      return { draft with query := { draft.query with sort := [key] } }
    | .thenBy descending, _ =>
      let key := ⟨← sortFieldOf arguments site, descending⟩
      return { draft with query := { draft.query with sort := draft.query.sort ++ [key] } }
    | .take, _ =>
      let count ← countOf arguments site
      return { draft with query := { draft.query with top := some count } }
    | .skip, _ =>
      let count ← countOf arguments site
      return { draft with query := { draft.query with skip := some count } }
    | .select, [argument] =>
      let projection ← Projection.ofBody argument.lambdaBody
      return { draft with query :=
        { draft.query with select := projection.select, expand := projection.expand } }
    | .terminal terminal, _ => draft.applyTerminal terminal arguments site
    | _, _ => .error (.unsupported site)

/-- Adds a chain to a draft. A part that is no operator on a chain is a condition by itself. -/
def addChain (draft : Draft) : Expr → Except QueryError Draft
  | .source _ => .ok draft
  | .call receiver method arguments => do
    let site := Expr.call receiver method arguments
    if Operator.isDisallowed method then .error (.disallowedOperator method)
    else match Operator.ofName? method with
      | some operator => (← draft.addChain receiver).applyOperator operator arguments site
      | none => return { draft with conditions := ← draft.conditions.pushCondition site }
  | condition => do
    return { draft with conditions := ← draft.conditions.pushCondition condition }

/-- The query of a finished draft; `site` is the whole chain. -/
def finish (draft : Draft) (site : Expr) : Except QueryError Query :=
  match draft.conditions.lowered with
  | [] => .ok { draft.query with predicate := none }
  | [entry] => .ok { draft.query with predicate := some entry.toPredicate.anchored }
  | _ => .error (.unsupported site)

end Draft

/-- Compiles a chain under options. -/
def Expr.compile (chain : Expr) (options : QueryOptions) : Except QueryError Query := do
  let chain := chain.fold
  let draft ← Draft.start.addChain chain
  return (← draft.finish chain).withOptions options

end ContentQuery
