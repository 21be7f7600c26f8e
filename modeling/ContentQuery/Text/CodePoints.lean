/-
# Sets of code points

A property of characters is kept as the list of its ranges, the way the tables of a standard are
printed.
-/

namespace ContentQuery.Text

/-- A set of code points: inclusive ranges in ascending order. -/
abbrev CodePoints := List (Nat × Nat)

/-- Whether a character's code point lies in one of the ranges. -/
def CodePoints.has (ranges : CodePoints) (c : Char) : Bool :=
  ranges.any fun (first, last) => first ≤ c.toNat && c.toNat ≤ last

end ContentQuery.Text
