/-
# Operators of a chain

The operators that a chain can be made of, under their names. A chain ends with at most one
terminal, which says what is to be made of the rows. The names of operators that only work on rows
in memory are known too, so that they can be refused by name.
-/

import ContentQuery.Query.Basic

namespace ContentQuery

/-- An operator that ends a chain. -/
inductive Terminal
  | count
  | any
  /-- Takes one item; where there is none, the result is no item or an error. -/
  | pick (selection : Selection) (orDefault : Bool)
deriving DecidableEq, Repr

namespace Terminal

/-- The terminal of a name. -/
def ofName? : String → Option Terminal
  | "Count" => some count
  | "LongCount" => some count
  | "Any" => some any
  | "First" => some (pick .first false)
  | "FirstOrDefault" => some (pick .first true)
  | "Single" => some (pick .single false)
  | "SingleOrDefault" => some (pick .single true)
  | "Last" => some (pick .last false)
  | "LastOrDefault" => some (pick .last true)
  | "ElementAt" => some (pick .elementAt false)
  | "ElementAtOrDefault" => some (pick .elementAt true)
  | _ => none

/-- The name that a terminal has in a chain. -/
def name : Terminal → String
  | count => "Count"
  | any => "Any"
  | pick .first false => "First"
  | pick .first true => "FirstOrDefault"
  | pick .single false => "Single"
  | pick .single true => "SingleOrDefault"
  | pick .last false => "Last"
  | pick .last true => "LastOrDefault"
  | pick .elementAt false => "ElementAt"
  | pick .elementAt true => "ElementAtOrDefault"

/-- Whether a terminal can have a condition as its argument; one that takes a position cannot. -/
def acceptsCondition : Terminal → Bool
  | pick .elementAt _ => false
  | _ => true

end Terminal

/-- An operator of a chain. -/
inductive Operator
  | filter
  | ofType
  | orderBy (descending : Bool)
  | thenBy (descending : Bool)
  | take
  | skip
  | select
  | terminal (terminal : Terminal)
deriving DecidableEq, Repr

namespace Operator

/-- The operator of a name. -/
def ofName? : String → Option Operator
  | "Where" => some filter
  | "OfType" => some ofType
  | "OrderBy" => some (orderBy false)
  | "OrderByDescending" => some (orderBy true)
  | "ThenBy" => some (thenBy false)
  | "ThenByDescending" => some (thenBy true)
  | "Take" => some take
  | "Skip" => some skip
  | "Select" => some select
  | other => (Terminal.ofName? other).map terminal

/-- The operators that no predicate can stand for. -/
def disallowed : List String :=
  ["Join", "GroupJoin", "SelectMany", "GroupBy", "Union", "Intersect", "Except", "Concat", "Zip",
    "Distinct", "Reverse", "Aggregate", "Sum", "Min", "Max", "Average", "SkipWhile", "TakeWhile",
    "All", "DefaultIfEmpty"]

/-- Whether an operator is refused by its name. -/
def isDisallowed (name : String) : Bool := disallowed.contains name

end Operator

end ContentQuery
