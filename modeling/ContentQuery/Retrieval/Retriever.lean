/-
# Retrieval

A retriever answers a request with rows and the number of rows on all pages, or fails. The query
layer looks into neither kind of failure. A retriever is a function: it answers equal requests
equally.
-/

import ContentQuery.Json
import ContentQuery.Retrieval.Request

namespace ContentQuery

/-- The rows of a page, and the number of rows on all pages. -/
structure Response where
  items : List Json
  totalCount : UInt64

/-- Why a retrieval failed. -/
inductive RetrieveError
  /-- The request or the answer was lost on the way. -/
  | transport (message : String)
  /-- The repository refused the request. -/
  | rejected (status : UInt16) (message : String)
deriving DecidableEq, Repr

/-- What a retrieval error says. -/
def RetrieveError.message : RetrieveError → String
  | transport message => "transport failure: " ++ message
  | rejected status message =>
    "request rejected with status " ++ toString status.toNat ++ ": " ++ message

/-- Answers requests. -/
abbrev Retriever := Request → Except RetrieveError Response

namespace Retriever

/-- The window of a list that a request asks for: `skip` items are left out, at most `top` are
kept. -/
def window {α : Type} (request : Request) (items : List α) : List α :=
  let rest := match request.skip with
    | some skip => items.drop skip.toNat
    | none => items
  match request.top with
  | some top => rest.take top.toNat
  | none => rest

/-- Serves a fixed list of items; only the window of the request matters. -/
def memory (items : List Json) : Retriever := fun request =>
  .ok { items := window request items, totalCount := UInt64.ofNat items.length }

/-- Gives one response to every request. -/
def fixed (response : Response) : Retriever := fun _ => .ok response

/-- Fails every request. -/
def failing (error : RetrieveError) : Retriever := fun _ => .error error

end Retriever

end ContentQuery
