/-
# Sessions

Work with a repository leaves two traces: the requests that were sent, and the events that were
logged. Both are kept in the order in which they happened. An error ends the step that it happens
in; what was sent and logged until then stays in the journal.
-/

import ContentQuery.Chain.Compile
import ContentQuery.Event

namespace ContentQuery

/-- What a session has sent and logged, the earliest first. -/
structure Journal where
  requests : List Request
  events : List Event

/-- The journal of a session in which nothing has happened. -/
def Journal.empty : Journal := ⟨[], []⟩

/-- A step of a session: it may fail, and it adds to the journal. -/
abbrev Session := ExceptT QueryError (StateM Journal)

namespace Session

/-- Logs an event. -/
def log (event : Event) : Session Unit :=
  modify fun journal => { journal with events := journal.events ++ [event] }

/-- Compiles a chain, and logs the query. -/
def compile (chain : Expr) (options : QueryOptions) : Session Query := do
  let query ← liftExcept (chain.compile options)
  log (.queryCompiled query)
  return query
where
  /-- The outcome of a computation that leaves no trace. -/
  liftExcept {α : Type} : Except QueryError α → Session α
    | .ok value => pure value
    | .error error => throw error

/-- Sends a request for items of a type. -/
def retrieve (retriever : Retriever) (typeName : String) (request : Request) :
    Session Response := do
  log (.retrieve typeName request.queryText)
  modify fun journal => { journal with requests := journal.requests ++ [request] }
  match retriever request with
  | .ok response => return response
  | .error cause =>
    log (.retrieveFailed typeName cause)
    throw (.retrieve cause)

end Session

end ContentQuery
