/-
# The text of predicates

The language of the search endpoint: a field, a colon and a term, a range or a pattern; a group
puts a plus before a clause that must hold and a minus before one that must not, and has
parentheses unless it is the whole text.
-/

import ContentQuery.Predicate.Basic
import ContentQuery.Text.Quoted

namespace ContentQuery

namespace Literal

mutual

/-- A literal as a term of the query text. -/
def toTerm : Literal → String
  | null => "null"
  | bool value => if value then "yes" else "no"
  | int value => toString value.toInt
  | float value => value.toText
  | text value => Text.term value
  | type name => Text.term name
  | dateTime value => "'" ++ value.indexText ++ "'"
  | content reference =>
    match reference.id, reference.path with
    | some id, _ => toString id.toNat
    | none, some path => Text.term path
    | none, none => "null"
  | list items => "(" ++ " ".intercalate (itemTerms items) ++ ")"

/-- The terms of all items. -/
def itemTerms : List Literal → List String
  | [] => []
  | item :: rest => toTerm item :: itemTerms rest

end

end Literal

/-- The sign before a clause. -/
def Occurrence.sign : Occurrence → String
  | must => "+"
  | should => ""
  | mustNot => "-"

namespace Predicate

/-- A range: one end by its comparison sign, two ends between brackets that are curly where the
end is left out, no end as a star. -/
def rangeText (lower upper : Bound) : String :=
  match lower.value, upper.value with
  | some value, none => (if lower.exclusive then ">" else ">=") ++ value.toTerm
  | none, some value => (if upper.exclusive then "<" else "<=") ++ value.toTerm
  | some low, some high =>
    (if lower.exclusive then "\x7b" else "[") ++ low.toTerm ++ " TO " ++ high.toTerm
      ++ (if upper.exclusive then "\x7d" else "]")
  | none, none => "*"

/-- Whether a predicate is a group. -/
def isGroup : Predicate → Bool
  | group _ => true
  | _ => false

mutual

/-- The text of a predicate. -/
def toText : Predicate → String
  | hasValue field value => field ++ ":" ++ value.toTerm
  | range field lower upper => field ++ ":" ++ rangeText lower upper
  | wildcard field pattern => field ++ ":" ++ pattern
  | group clauses => " ".intercalate (clauseTexts clauses)

/-- The texts of all clauses of a group, a group in parentheses. -/
def clauseTexts : List (Occurrence × Predicate) → List String
  | [] => []
  | (occurrence, p) :: rest =>
    (occurrence.sign ++ if p.isGroup then "(" ++ toText p ++ ")" else toText p) :: clauseTexts rest

end

end Predicate

end ContentQuery
