/-
# Events

What the library tells a log: each query that compiles, each retrieval, and each retrieval that
fails.
-/

import ContentQuery.Query.Fingerprint
import ContentQuery.Retrieval.Retriever

namespace ContentQuery

/-- How much an event matters. -/
inductive Level
  | debug
  | warn
deriving DecidableEq, Repr

/-- An event. -/
inductive Event
  | queryCompiled (query : Query)
  | retrieve (typeName queryText : String)
  | retrieveFailed (typeName : String) (cause : RetrieveError)

namespace Event

/-- The name that all events are logged under. -/
def target : String := "contentrepo"

/-- How much an event matters: a failure is a warning. -/
def level : Event → Level
  | queryCompiled _ | retrieve _ _ => .debug
  | retrieveFailed _ _ => .warn

/-- The text of an event. -/
def toText : Event → String
  | queryCompiled query =>
    "event=query_compiled fingerprint=" ++ query.fingerprint.toHex ++ " text=" ++ query.toText
  | retrieve typeName queryText => "event=retrieve type=" ++ typeName ++ " text=" ++ queryText
  | retrieveFailed typeName cause =>
    "event=retrieve_failed type=" ++ typeName ++ " error=" ++ cause.message

end Event

end ContentQuery
