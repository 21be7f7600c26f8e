/-
# From rows to results

What a terminal makes of the rows that were retrieved: one item, or a number.
-/

import ContentQuery.Error

namespace ContentQuery.Query

/-- The single item that a query takes from its rows. When there is none, it is an error for the
queries that say so: one about the position where a position was asked for. -/
def pickItem {α : Type} (query : Query) (items : List α) : Except QueryError (Option α) :=
  match query.selection with
  | some .single =>
    if 1 < items.length then .error .moreThanOneElement else settle items.head?
  | some .last => settle items.getLast?
  | _ => settle items.head?
where
  /-- The chosen item, or what its absence means. -/
  settle : Option α → Except QueryError (Option α)
    | some item => .ok (some item)
    | none =>
      if query.throwIfEmpty then
        .error (match query.elementIndex with
          | some index => .indexOutOfRange index
          | none => .noElements)
      else .ok none

/-- The number of rows that a query counts. The total is that of all pages, and never less than
the rows at hand; the query's own window is cut from it here. -/
def rowCount (query : Query) (response : Response) : UInt64 :=
  let total := max response.totalCount.toNat response.items.length
  let rest := match query.skip with
    | some skip => total - skip.toNat
    | none => total
  UInt64.ofNat <| match query.top with
    | some top => min rest top.toNat
    | none => rest

end ContentQuery.Query
