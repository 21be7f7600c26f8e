/-
# Errors of queries

Everything that can go wrong with a query, from its compilation to the reading of its rows. An
error holds its cause; the wording is made from the cause here and nowhere else.
-/

import ContentQuery.Expr.Basic
import ContentQuery.Retrieval.Retriever

namespace ContentQuery

/-- Why a query has no result. -/
inductive QueryError
  /-- A part of the chain has no meaning for the search endpoint. -/
  | unsupported (expr : Expr)
  /-- An argument of a projection, by its position from zero, is no chain of members. -/
  | unsupportedArgument (position : Nat) (argument : Expr)
  /-- An operator that only works on rows in memory. -/
  | disallowedOperator (operator : String)
  /-- A reference with neither number nor path. -/
  | unresolvableReference
  | noElements
  | indexOutOfRange (index : UInt32)
  | moreThanOneElement
  | retrieve (cause : RetrieveError)
  | decode (cause : DecodeError)

/-- The kinds of errors, without what they hold. -/
inductive ErrorKind
  | unsupportedExpression
  | disallowedOperator
  | unresolvableReference
  | noElements
  | indexOutOfRange
  | moreThanOneElement
  | retrieve
  | decode
deriving DecidableEq, Repr

/-- What a caller can do about an error. -/
inductive ErrorClass
  /-- The query cannot be sent. -/
  | unsupported
  | notFound
  | conflict
  | transport
  | decode
deriving DecidableEq, Repr

/-- The word for a class. -/
def ErrorClass.label : ErrorClass → String
  | unsupported => "unsupported"
  | notFound => "not_found"
  | conflict => "conflict"
  | transport => "transport"
  | decode => "decode"

/-- The class of a kind of errors. -/
def ErrorKind.toClass : ErrorKind → ErrorClass
  | unsupportedExpression | disallowedOperator | unresolvableReference => .unsupported
  | noElements | indexOutOfRange => .notFound
  | moreThanOneElement => .conflict
  | retrieve => .transport
  | decode => .decode

/-- The word for a place in a sequence, counted from zero. -/
def ordinal (position : Nat) : String :=
  let words := ["first", "second", "third", "fourth", "fifth", "sixth", "seventh", "eighth",
    "ninth", "tenth"]
  words.getD position (toString (position + 1) ++ "th")

namespace QueryError

/-- The kind of an error. -/
def kind : QueryError → ErrorKind
  | unsupported _ | unsupportedArgument _ _ => .unsupportedExpression
  | disallowedOperator _ => .disallowedOperator
  | unresolvableReference => .unresolvableReference
  | noElements => .noElements
  | indexOutOfRange _ => .indexOutOfRange
  | moreThanOneElement => .moreThanOneElement
  | retrieve _ => .retrieve
  | decode _ => .decode

/-- Whether an error arises before anything is sent. -/
def isCompileError (error : QueryError) : Bool := error.kind.toClass == .unsupported

/-- What an error says. -/
def message : QueryError → String
  | unsupported expr => "unsupported expression: " ++ expr.toText
  | unsupportedArgument position argument =>
    "unsupported expression: " ++ ordinal position ++ " argument of projection: "
      ++ argument.toText
  | disallowedOperator operator =>
    "the '" ++ operator ++ "' operator cannot be translated into a remote query; materialize the "
      ++ "results eagerly first (e.g. `to_vec().await`) and apply '" ++ operator ++ "' in memory"
  | unresolvableReference => "referenced content has neither an id nor a path"
  | noElements => "sequence contains no elements"
  | indexOutOfRange index => "index was out of range (index " ++ toString index.toNat ++ ")"
  | moreThanOneElement => "sequence contains more than one element"
  | retrieve cause => cause.message
  | decode cause => "retrieved content could not be decoded: " ++ cause.message

end QueryError

end ContentQuery
