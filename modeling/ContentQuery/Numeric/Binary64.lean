/-
# Binary floating point numbers of 64 bits

A number is its word: sign, eleven exponent bits and fifty-two fraction bits. Everything is read
off the word in natural numbers, so order and rounding are exact integer arithmetic and a proof
never meets a machine float. The unit of measure is `2 ^ -1074`, the smallest positive number: a
finite number is its `magnitude` times that unit, with the sign. Powers are spelled `Nat.pow`, as
what the operator means depends on the algebra in scope.
-/

namespace ContentQuery

/-- A binary64 number, given by its word. Two words of one value (the two zeros) and the many
words that are no number stay apart here; `Binary64.compare?` is the numeric order. -/
structure Binary64 where
  bits : UInt64
deriving DecidableEq

namespace Binary64

/-- The sign bit. -/
def isNegative (x : Binary64) : Bool := Nat.pow 2 63 ≤ x.bits.toNat

/-- The eleven exponent bits. -/
def exponentField (x : Binary64) : Nat :=
  x.bits.toNat / Nat.pow 2 52 % Nat.pow 2 11

/-- The fifty-two fraction bits. -/
def fraction (x : Binary64) : Nat := x.bits.toNat % Nat.pow 2 52

/-- The words that stand for no number. -/
def isNaN (x : Binary64) : Bool := x.exponentField == 2047 && x.fraction != 0

/-- The two infinities. -/
def isInfinite (x : Binary64) : Bool := x.exponentField == 2047 && x.fraction == 0

/-- The integer significand; a zero exponent field has no leading one. -/
def significand (x : Binary64) : Nat :=
  if x.exponentField = 0 then x.fraction else Nat.pow 2 52 + x.fraction

/-- The power of two that weighs the significand, above the smallest unit `2 ^ -1074`. -/
def weight (x : Binary64) : Nat := x.exponentField - 1

/-- The absolute value in units of `2 ^ -1074`. An infinity gets `2 ^ 2098`, which is above every
finite number, so the order below needs no case for it. -/
def magnitude (x : Binary64) : Nat := x.significand * Nat.pow 2 x.weight

/-- The signed value in units of `2 ^ -1074`; both zeros give `0`. -/
def scaled (x : Binary64) : Int := if x.isNegative then -(x.magnitude : Int) else x.magnitude

/-- The numeric order. A word that is no number is not ordered with anything, itself included. -/
def compare? (x y : Binary64) : Option Ordering :=
  if x.isNaN || y.isNaN then none else some (compare x.scaled y.scaled)

/-- Numeric equality: zeros are equal and a word that is no number equals nothing. -/
def equals (x y : Binary64) : Bool := x.compare? y == some .eq

/-- The word of a sign and the remaining sixty-three bits. -/
def ofSignAndRest (negative : Bool) (rest : Nat) : Binary64 :=
  ⟨UInt64.ofNat ((if negative then Nat.pow 2 63 else 0) + rest)⟩

/-- The sixty-three bits of an infinity. -/
def infinityRest : Nat := 2047 * Nat.pow 2 52

/-- The infinity of a sign. -/
def infinity (negative : Bool) : Binary64 := ofSignAndRest negative infinityRest

/-- The quiet word that stands for no number. -/
def nan : Binary64 := ofSignAndRest false (infinityRest + Nat.pow 2 51)

/-- The zero of a sign. -/
def zero (negative : Bool) : Binary64 := ofSignAndRest negative 0

/-- The integer nearest to a quotient; a half goes to the even neighbour. -/
def roundHalfEven (numerator denominator : Nat) : Nat :=
  let quotient := numerator / denominator
  let twice := 2 * (numerator % denominator)
  if twice < denominator then quotient
  else if denominator < twice then quotient + 1
  else quotient + quotient % 2

/-- The number nearest to a quotient of naturals, ties to the even significand. Rounding up past
the last significand carries into the exponent bits, which is the next number; what reaches the
exponent of the infinities is an infinity. -/
def ofRatio (negative : Bool) (numerator denominator : Nat) : Binary64 :=
  let units := numerator * Nat.pow 2 1074
  let weight := Nat.log2 (units / denominator) - 52
  let significand := roundHalfEven units (denominator * Nat.pow 2 weight)
  let rest :=
    if significand < Nat.pow 2 52 then significand else weight * Nat.pow 2 52 + significand
  ofSignAndRest negative (min rest infinityRest)

/-- The number nearest to an integer, ties to even; zero gives the positive zero. -/
def ofInt (value : Int) : Binary64 := ofRatio (decide (value < 0)) value.natAbs 1

/-- How many decimal digits a natural number has; zero has none. -/
def digitCount (value : Nat) : Nat := if value = 0 then 0 else (Nat.toDigits 10 value).length

/-- The number nearest to `digits * 10 ^ exponent`. Beyond `10 ^ 310` every number is an infinity
and below `10 ^ -331` every number is a zero, so no power beyond those is formed. -/
def ofDecimal (negative : Bool) (digits : Nat) (exponent : Int) : Binary64 :=
  let size : Int := digitCount digits + exponent
  if digits = 0 ∨ size < -330 then zero negative
  else if 310 < size then infinity negative
  else if 0 ≤ exponent then ofRatio negative (digits * Nat.pow 10 exponent.toNat) 1
  else ofRatio negative digits (Nat.pow 10 (-exponent).toNat)

end Binary64

end ContentQuery
