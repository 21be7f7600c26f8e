/-
# The text of a query

The text that is sent: the predicate, then the directives in a fixed order, each after a blank and
a point. The server's own defaults are filters on and lifespan off, so only the opposite is
written.
-/

import ContentQuery.Predicate.Text
import ContentQuery.Query.Basic

namespace ContentQuery

/-- A sort key as a directive. -/
def SortKey.toText (key : SortKey) : String :=
  (if key.descending then " .REVERSESORT:" else " .SORT:") ++ key.field

namespace Query

/-- The text of the predicate; without one, of the predicate that holds of every item. -/
def predicateText (query : Query) : String := (query.predicate.getD Predicate.matchAll).toText

/-- A directive that is written when a condition holds. -/
def flagText (holds : Bool) (text : String) : String := if holds then text else ""

/-- A directive with a number, written when there is one. -/
def numberText (start : String) (number : Option UInt32) : String :=
  match number with
  | some n => start ++ toString n.toNat
  | none => ""

/-- The directives after the predicate. -/
def directiveText (query : Query) : String :=
  flagText query.allVersions " .ALLVERSIONS"
    ++ flagText query.countOnly " .COUNTONLY"
    ++ numberText " .TOP:" query.top
    ++ numberText " .SKIP:" query.skip
    ++ String.join (query.sort.map SortKey.toText)
    ++ flagText (query.autofilters == .disabled) " .AUTOFILTERS:OFF"
    ++ flagText (query.lifespan == .enabled) " .LIFESPAN:ON"
    ++ flagText (query.executionMode == .quick) " .QUICK"

/-- The text of a query. -/
def toText (query : Query) : String := query.predicateText ++ query.directiveText

end Query

end ContentQuery
