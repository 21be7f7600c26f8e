/-
# Requests to the repository

What is sent for a query: its text, and beside it the directives that the endpoint takes as
parameters of their own.
-/

import ContentQuery.Query.Text

namespace ContentQuery

/-- A request for the rows of a query. -/
structure Request where
  queryText : String
  autofilters : FilterStatus
  lifespan : FilterStatus
  expand : List String
  select : List String
  top : Option UInt32
  skip : Option UInt32
  /-- The number of rows on all pages is asked for. -/
  countAllPages : Bool
deriving DecidableEq, Repr

/-- The request for a compiled query. -/
def Query.toRequest (query : Query) : Request where
  queryText := query.toText
  autofilters := query.autofilters
  lifespan := query.lifespan
  expand := query.expand
  select := query.select
  top := query.top
  skip := query.skip
  countAllPages := query.countOnly

end ContentQuery
