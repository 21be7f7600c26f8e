/-
# Search predicates

A predicate is what the search endpoint tests an item's fields against. Its literals are in
comparable form when it comes out of a query. A group joins clauses that must hold, must not hold
or should hold; a group whose only clause must not hold is the negation of that clause.
-/

import ContentQuery.Literal

namespace ContentQuery

/-- The part that a clause plays in its group. -/
inductive Occurrence
  | must
  | should
  | mustNot
deriving DecidableEq, Repr

/-- One end of a range: the literal there, if the range ends, and whether it is left out. -/
structure Bound where
  value : Option Literal
  exclusive : Bool

/-- The end of a range that does not end. -/
def Bound.unbounded : Bound := ⟨none, false⟩

/-- A search predicate. -/
inductive Predicate
  /-- A field holds a value. -/
  | hasValue (field : String) (value : Literal)
  /-- A field lies between two ends. -/
  | range (field : String) (lower upper : Bound)
  /-- The text of a field has the form of a pattern, in which stars stand for any text. -/
  | wildcard (field pattern : String)
  | group (clauses : List (Occurrence × Predicate))

namespace Predicate

/-- The field that every item has, with a positive number in it. -/
def matchAllField : String := "Id"

/-- A field is above a value, or at it unless the end is exclusive. -/
def lowerBound (field : String) (value : Literal) (exclusive : Bool) : Predicate :=
  range field ⟨some value, exclusive⟩ .unbounded

/-- A field is below a value, or at it unless the end is exclusive. -/
def upperBound (field : String) (value : Literal) (exclusive : Bool) : Predicate :=
  range field .unbounded ⟨some value, exclusive⟩

/-- Holds of every item, as every item has a positive number. -/
def matchAll : Predicate := lowerBound matchAllField (.int 0) true

/-- The negation of a predicate. -/
def negate (p : Predicate) : Predicate := group [(.mustNot, p)]

/-- Holds of no item. -/
def matchNone : Predicate := negate matchAll

/-- The predicate that a negation negates; none for every other predicate. -/
def negated? : Predicate → Option Predicate
  | group [(.mustNot, p)] => some p
  | _ => none

/-- Whether a predicate is a group whose only clause must not hold. -/
def isNegation (p : Predicate) : Bool := p.negated?.isSome

/-- The clause by which a predicate joins a conjunction: a negation brings its own clause, so that
a condition and a negated one make one flat group. -/
def asClause (p : Predicate) : Occurrence × Predicate :=
  match p.negated? with
  | some inner => (.mustNot, inner)
  | none => (.must, p)

/-- The conjunction of two predicates. -/
def must (left right : Predicate) : Predicate := group [left.asClause, right.asClause]

/-- The disjunction of two predicates. -/
def should (left right : Predicate) : Predicate := group [(.should, left), (.should, right)]

/-- The predicate as the endpoint is sent it: a group without a positive clause selects nothing
there, so a negation at the root is joined by the predicate that holds of every item. -/
def anchored (p : Predicate) : Predicate :=
  match p.negated? with
  | some inner => group [(.mustNot, inner), (.must, matchAll)]
  | none => p

end Predicate

end ContentQuery
