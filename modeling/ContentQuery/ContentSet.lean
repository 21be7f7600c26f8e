/-
# Sets of items

A set of items is a query that is still being written: a chain over the items of one type, and
options. No operation changes a set; each gives a new one. Terminals compile the chain, send one
request, and read what comes back as items of the set's type.
-/

import ContentQuery.Content.Item
import ContentQuery.Retrieval.Reduction
import ContentQuery.Session
import ContentQuery.Text.Inspect

namespace ContentQuery

/-- The items of a type that a chain describes. -/
structure ContentSet (α : Type) where
  retriever : Retriever
  itemType : ItemType α
  chain : Expr
  options : QueryOptions

namespace ContentSet

variable {α β : Type}

/-- All items of a type, queried under options. -/
def withOptions (retriever : Retriever) (itemType : ItemType α) (options : QueryOptions) :
    ContentSet α :=
  ⟨retriever, itemType, .source itemType.name, options⟩

/-- All items of a type. -/
def all (retriever : Retriever) (itemType : ItemType α) : ContentSet α :=
  withOptions retriever itemType .default

/-! ## Chaining -/

/-- The chain with an operator more. -/
def chainCall (set : ContentSet α) (operator : String) (arguments : List Expr) : Expr :=
  set.chain.call operator arguments

/-- The set whose chain has an operator more. -/
def chained (set : ContentSet α) (operator : String) (arguments : List Expr) : ContentSet α :=
  { set with chain := set.chainCall operator arguments }

/-- The items that meet a condition. -/
def filter (set : ContentSet α) (condition : Expr) : ContentSet α :=
  set.chained "Where" [condition.asLambda]

/-- The items in the order of a key. -/
def orderBy (set : ContentSet α) (key : Expr) : ContentSet α :=
  set.chained "OrderBy" [key.asLambda]

/-- The items in the reverse order of a key. -/
def orderByDescending (set : ContentSet α) (key : Expr) : ContentSet α :=
  set.chained "OrderByDescending" [key.asLambda]

/-- The items in their order, those of equal keys so far in the order of another key. -/
def thenBy (set : ContentSet α) (key : Expr) : ContentSet α :=
  set.chained "ThenBy" [key.asLambda]

/-- The items in their order, those of equal keys so far in the reverse order of another key. -/
def thenByDescending (set : ContentSet α) (key : Expr) : ContentSet α :=
  set.chained "ThenByDescending" [key.asLambda]

/-- A row count as a literal. -/
def countLiteral (count : UInt32) : Expr := .literal (.int (Int64.ofNat count.toNat))

/-- At most so many items. -/
def take (set : ContentSet α) (count : UInt32) : ContentSet α :=
  set.chained "Take" [countLiteral count]

/-- The items but so many at the start. -/
def skip (set : ContentSet α) (count : UInt32) : ContentSet α :=
  set.chained "Skip" [countLiteral count]

/-- The items with only the given fields. -/
def project (set : ContentSet α) (fields : List Expr) : ContentSet α :=
  set.chained "Select" [.lambda (.project fields)]

/-- The items of a narrower type. -/
def ofType (set : ContentSet α) (itemType : ItemType β) : ContentSet β where
  retriever := set.retriever
  itemType := itemType
  chain := set.chainCall "OfType" [.literal (.type itemType.name)]
  options := set.options

/-- The set whose chain has an operator more, given by its name. An operator that only works in
memory is refused here; any other unknown name is found out when the chain is compiled. -/
def apply (set : ContentSet α) (operator : String) (arguments : List Expr) :
    Except QueryError (ContentSet α) :=
  if Operator.isDisallowed operator then .error (.disallowedOperator operator)
  else .ok (set.chained operator arguments)

/-! ## Settings -/

/-- The set with other options. -/
def configured (set : ContentSet α) (update : QueryOptions → QueryOptions) : ContentSet α :=
  { set with options := update set.options }

/-- The set with the autofilters switched. -/
def autofilters (set : ContentSet α) (status : FilterStatus) : ContentSet α :=
  set.configured fun options => { options with autofilters := status }

/-- The set with the lifespan filter switched. -/
def lifespan (set : ContentSet α) (status : FilterStatus) : ContentSet α :=
  set.configured fun options => { options with lifespan := status }

/-- The set queried in a mode of execution. -/
def executionMode (set : ContentSet α) (mode : ExecutionMode) : ContentSet α :=
  set.configured fun options => { options with executionMode := mode }

/-- The set with or without earlier versions of its items. -/
def allVersions (set : ContentSet α) (enabled : Bool) : ContentSet α :=
  set.configured fun options => { options with allVersions := enabled }

/-- The set with an explicit list of fields to expand. -/
def expand (set : ContentSet α) (fields : List String) : ContentSet α :=
  set.configured fun options => { options with expand := some fields }

/-- The set with an explicit list of fields to select. -/
def select (set : ContentSet α) (fields : List String) : ContentSet α :=
  set.configured fun options => { options with select := some fields }

/-! ## Compilation -/

/-- The query of a set. -/
def compile (set : ContentSet α) : Session Query := Session.compile set.chain set.options

/-- The query text of a set. -/
def queryText (set : ContentSet α) : Session String := do return (← set.compile).toText

/-! ## Terminals -/

/-- Compiles a chain under the set's options, and makes the one retrieval. -/
def execute (set : ContentSet α) (chain : Expr) : Session (Query × Response) := do
  let query ← Session.compile chain set.options
  return (query, ← Session.retrieve set.retriever set.itemType.name query.toRequest)

/-- Reads a retrieved value as an item of the set. -/
def decode (set : ContentSet α) (json : Json) : Session α :=
  match set.itemType.decode json with
  | .ok item => return item
  | .error cause => throw (.decode cause)

/-- All items of the set. -/
def toList (set : ContentSet α) : Session (List α) := do
  let (_, response) ← set.execute set.chain
  response.items.mapM set.decode

/-- The argument list of a terminal with or without a condition. -/
def conditionArguments (condition : Option Expr) : List Expr :=
  (condition.map Expr.asLambda).toList

/-- The number of rows that a counting terminal finds. -/
def countBy (set : ContentSet α) (operator : String) (condition : Option Expr) :
    Session UInt64 := do
  let (query, response) ← set.execute (set.chainCall operator (conditionArguments condition))
  return query.rowCount response

/-- The number of items, of those that meet a condition where one is given. -/
def count (set : ContentSet α) (condition : Option Expr) : Session UInt64 :=
  set.countBy "Count" condition

/-- The number of items, asked for as a long count. -/
def longCount (set : ContentSet α) : Session UInt64 := set.countBy "LongCount" none

/-- Whether there is an item, one that meets a condition where one is given. -/
def any (set : ContentSet α) (condition : Option Expr) : Session Bool := do
  return 0 < (← set.countBy "Any" condition)

/-- The item that a terminal picks, if it finds one. -/
def pickBy (set : ContentSet α) (terminal : Terminal) (arguments : List Expr) :
    Session (Option α) := do
  let (query, response) ← set.execute (set.chainCall terminal.name arguments)
  match query.pickItem response.items with
  | .ok (some json) => return some (← set.decode json)
  | .ok none => return none
  | .error error => throw error

/-- An item that must be there. -/
def required : Option α → Session α
  | some item => return item
  | none => throw .noElements

/-- The item that a strict terminal picks; having none is an error. -/
def pick (set : ContentSet α) (selection : Selection) (arguments : List Expr) : Session α := do
  required (← set.pickBy (.pick selection false) arguments)

/-- The item that a lenient terminal picks, if there is one. -/
def pickOrDefault (set : ContentSet α) (selection : Selection) (arguments : List Expr) :
    Session (Option α) :=
  set.pickBy (.pick selection true) arguments

/-- The first item, of those that meet a condition where one is given. -/
def first (set : ContentSet α) (condition : Option Expr) : Session α :=
  set.pick .first (conditionArguments condition)

/-- The first item, if there is one. -/
def firstOrDefault (set : ContentSet α) (condition : Option Expr) : Session (Option α) :=
  set.pickOrDefault .first (conditionArguments condition)

/-- The only item, of those that meet a condition where one is given; a second one is an error. -/
def single (set : ContentSet α) (condition : Option Expr) : Session α :=
  set.pick .single (conditionArguments condition)

/-- The only item, if there is one; a second one is an error. -/
def singleOrDefault (set : ContentSet α) (condition : Option Expr) : Session (Option α) :=
  set.pickOrDefault .single (conditionArguments condition)

/-- The last item, of those that meet a condition where one is given. -/
def last (set : ContentSet α) (condition : Option Expr) : Session α :=
  set.pick .last (conditionArguments condition)

/-- The last item, if there is one. -/
def lastOrDefault (set : ContentSet α) (condition : Option Expr) : Session (Option α) :=
  set.pickOrDefault .last (conditionArguments condition)

/-- The item at a position; having none is an error. -/
def elementAt (set : ContentSet α) (index : UInt32) : Session α :=
  set.pick .elementAt [countLiteral index]

/-- The item at a position, if there is one. -/
def elementAtOrDefault (set : ContentSet α) (index : UInt32) : Session (Option α) :=
  set.pickOrDefault .elementAt [countLiteral index]

end ContentSet

end ContentQuery
