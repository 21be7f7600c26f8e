/-
# Decimal text of binary64 numbers

The text of a number is the shortest one that reads back: of all decimals that round to the
number, those with the fewest digits, and among them the nearest; where two are equally near, the
larger one. It is written positionally whatever its size, with no point when it is whole.

Reading takes a sign, digits with at most one point, and an exponent, and rounds the exact decimal
once.
-/

import ContentQuery.Numeric.Binary64

namespace ContentQuery

/-- The decimal `digits * 10 ^ exponent`. -/
structure Decimal where
  digits : Nat
  exponent : Int
deriving DecidableEq, Repr

namespace Decimal

/-- Positional text: zeros fill up to the units, a point stands only before a fractional part. -/
def toPositional (d : Decimal) : String :=
  let text := Nat.toDigits 10 d.digits
  if 0 ≤ d.exponent then String.ofList (text ++ List.replicate d.exponent.toNat '0')
  else
    let places := (-d.exponent).toNat
    let padded := List.replicate (places + 1 - text.length) '0' ++ text
    let cut := padded.length - places
    String.ofList (padded.take cut ++ '.' :: padded.drop cut)

/-- The value of a run of decimal digits. -/
def digitsValue (digits : List Char) : Nat :=
  digits.foldl (fun value c => value * 10 + (c.toNat - '0'.toNat)) 0

end Decimal

namespace Binary64

/-- The reals that round to a finite number, as quarters of the unit `2 ^ -1074`, and whether the
two ends belong to them, which they do when the significand is even. Below a power of two the
spacing is half as wide. -/
structure Neighbourhood where
  lower : Nat
  value : Nat
  upper : Nat
  closed : Bool

/-- The neighbourhood of a number's absolute value. -/
def neighbourhood (x : Binary64) : Neighbourhood :=
  let m := x.significand
  let unit := Nat.pow 2 x.weight
  let gapBelow := if x.fraction = 0 ∧ 1 < x.exponentField then 1 else 2
  { lower := (4 * m - gapBelow) * unit
    value := 4 * m * unit
    upper := (4 * m + 2) * unit
    closed := m % 2 == 0 }

/-- Whether `multiple * step / scale` lies in the neighbourhood. -/
def Neighbourhood.admits (n : Neighbourhood) (scale step multiple : Nat) : Bool :=
  let point := multiple * step
  let low := n.lower * scale
  let high := n.upper * scale
  (low < point && point < high) || (n.closed && (low == point || high == point))

/-- The multiple of `10 ^ k` in the neighbourhood that is nearest to the value, the larger of two
equally near ones; none when no multiple lies in it. -/
def Neighbourhood.onGrid (n : Neighbourhood) (k : Int) : Option Nat :=
  let scale := Nat.pow 10 (-k).toNat
  let step := Nat.pow 2 1076 * Nat.pow 10 k.toNat
  let value := n.value * scale
  let below := value / step
  let above := below + 1
  let aboveIsNearer := (above * step - value) ≤ (value - below * step)
  match n.admits scale step below, n.admits scale step above with
  | true, true => some (if aboveIsNearer then above else below)
  | true, false => some below
  | false, true => some above
  | false, false => none

/-- Searches the grids from `10 ^ k` downward; the first with a hit has the fewest digits. -/
def Neighbourhood.search (n : Neighbourhood) : Nat → Int → Decimal
  | 0, k => ⟨n.value * Nat.pow 10 (-k).toNat / (Nat.pow 2 1076 * Nat.pow 10 k.toNat), k⟩
  | steps + 1, k =>
    match n.onGrid k with
    | some digits => ⟨digits, k⟩
    | none => n.search steps (k - 1)

/-- The shortest decimal of a finite number's absolute value. The search starts at or above the
number's own decimal exponent, and seventeen digits tell any two numbers apart, so it ends with a
hit. -/
def shortest (x : Binary64) : Decimal :=
  if x.magnitude = 0 then ⟨0, 0⟩
  else
    let size : Int := Nat.log2 x.magnitude + 1
    x.neighbourhood.search 24 ((size - 1074) * 30103 / 100000 + 1)

/-- The text of a number: sign, then its shortest decimal in positional form. -/
def toText (x : Binary64) : String :=
  if x.isNaN then "NaN"
  else
    let sign := if x.isNegative then "-" else ""
    sign ++ if x.isInfinite then "inf" else x.shortest.toPositional

/-- Reads an optional exponent: a letter `e`, an optional sign and digits; nothing else may
follow. -/
def readExponent? : List Char → Option Int
  | [] => some 0
  | c :: rest =>
    if c.toLower ≠ 'e' then none
    else
      let (negative, digits) := match rest with
        | '-' :: digits => (true, digits)
        | '+' :: digits => (false, digits)
        | digits => (false, digits)
      if digits.isEmpty || !digits.all Char.isDigit then none
      else
        let value : Int := Decimal.digitsValue digits
        some (if negative then -value else value)

/-- Reads digits with at most one point, at least one digit, and an optional exponent. -/
def readUnsigned? (negative : Bool) (text : List Char) : Option Binary64 :=
  let whole := text.takeWhile Char.isDigit
  let rest := text.dropWhile Char.isDigit
  let (places, rest) := match rest with
    | '.' :: rest => (rest.takeWhile Char.isDigit, rest.dropWhile Char.isDigit)
    | rest => ([], rest)
  if whole.isEmpty && places.isEmpty then none
  else (readExponent? rest).map fun exponent =>
    ofDecimal negative (Decimal.digitsValue (whole ++ places)) (exponent - places.length)

/-- Reads the text of a number: an optional sign, then `inf`, `infinity` or `nan` in any letter
case, or a decimal. -/
def ofText? (text : String) : Option Binary64 :=
  let (negative, rest) := match text.toList with
    | '-' :: rest => (true, rest)
    | '+' :: rest => (false, rest)
    | rest => (false, rest)
  let word := String.ofList (rest.map Char.toLower)
  if word == "inf" || word == "infinity" then some (infinity negative)
  else if word == "nan" then some nan
  else readUnsigned? negative rest

end Binary64

end ContentQuery
