/-
# Compiled queries

What a chain of operators comes down to: a predicate, sort keys and a window of rows, and the
directives that say what is to be made of the rows. Settings travel beside the chain; lists of
fields that are set explicitly win over those that the chain asks for.
-/

import ContentQuery.Predicate.Basic

namespace ContentQuery

/-- A filter that the server applies by itself, left to the server's default or switched. -/
inductive FilterStatus
  | default
  | enabled
  | disabled
deriving DecidableEq, Repr

/-- How the server answers: as it does by default, or quickly from its index without looking at
permissions. -/
inductive ExecutionMode
  | default
  | quick
deriving DecidableEq, Repr

/-- The settings of the server that every query carries. -/
structure Settings where
  autofilters : FilterStatus
  lifespan : FilterStatus
  executionMode : ExecutionMode
  allVersions : Bool
deriving DecidableEq, Repr

/-- Everything left to the server. -/
def Settings.default : Settings := ⟨.default, .default, .default, false⟩

/-- The options of a query: the settings, and the fields to expand and to select where those are
given explicitly. -/
structure QueryOptions extends Settings where
  expand : Option (List String)
  select : Option (List String)
deriving DecidableEq, Repr

/-- The options that hold settings and no list of fields. -/
def QueryOptions.ofSettings (settings : Settings) : QueryOptions := ⟨settings, none, none⟩

/-- The options of a query about which nothing was said. -/
def QueryOptions.default : QueryOptions := .ofSettings .default

/-- A field to sort by. -/
structure SortKey where
  field : String
  descending : Bool
deriving DecidableEq, Repr

/-- Which single item a query takes from its rows. -/
inductive Selection
  | first
  | single
  | last
  | elementAt
deriving DecidableEq, Repr

/-- A compiled query. -/
structure Query extends Settings where
  /-- The predicate; without one every item is meant. -/
  predicate : Option Predicate
  /-- The sort keys, the most important first. -/
  sort : List SortKey
  /-- The greatest number of rows. -/
  top : Option UInt32
  /-- The number of rows to leave out at the start. -/
  skip : Option UInt32
  /-- Only the number of rows is wanted. -/
  countOnly : Bool
  /-- Only whether there is a row is wanted. -/
  existenceOnly : Bool
  /-- The single item that is wanted, if one is. -/
  selection : Option Selection
  /-- The position that was asked for, counted within the chain's own window. -/
  elementIndex : Option UInt32
  /-- Having no row is an error. -/
  throwIfEmpty : Bool
  expand : List String
  select : List String

namespace Query

/-- The query that asks for every item. -/
def all : Query where
  toSettings := .default
  predicate := none
  sort := []
  top := none
  skip := none
  countOnly := false
  existenceOnly := false
  selection := none
  elementIndex := none
  throwIfEmpty := false
  expand := []
  select := []

/-- A query under options: their settings replace the query's, and so do their lists where given.
-/
def withOptions (query : Query) (options : QueryOptions) : Query :=
  { query with
    toSettings := options.toSettings
    expand := options.expand.getD query.expand
    select := options.select.getD query.select }

end Query

end ContentQuery
