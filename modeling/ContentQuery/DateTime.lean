/-
# Calendar dates with a time of day

A date of the Gregorian calendar, extended to all years from -9999 to 9999, with a time of day
down to the nanosecond and no time zone. There are two texts: the plain one drops the zeros that
end the fraction, the index one always keeps four places and cuts the rest off.
-/

namespace ContentQuery

/-- Whether a year has a twenty-ninth of February. -/
def isLeapYear (year : Int) : Bool := year % 4 == 0 && (year % 100 != 0 || year % 400 == 0)

/-- The number of days of a month. -/
def daysInMonth (year : Int) (month : Nat) : Nat :=
  if month = 2 then if isLeapYear year then 29 else 28
  else if month = 4 ∨ month = 6 ∨ month = 9 ∨ month = 11 then 30
  else 31

/-- A date and a time of day; only days that the calendar has are values. -/
structure DateTime where
  year : Int
  month : Nat
  day : Nat
  hour : Nat
  minute : Nat
  second : Nat
  nanosecond : Nat
  year_range : -9999 ≤ year ∧ year ≤ 9999
  month_range : 1 ≤ month ∧ month ≤ 12
  day_range : 1 ≤ day ∧ day ≤ daysInMonth year month
  time_range : hour < 24 ∧ minute < 60 ∧ second < 60 ∧ nanosecond < Nat.pow 10 9
deriving DecidableEq

namespace DateTime

/-- The date and time of seven parts, when the calendar and the clock have it. -/
def ofParts? (year : Int) (month day hour minute second nanosecond : Nat) : Option DateTime :=
  if h : (-9999 ≤ year ∧ year ≤ 9999) ∧ (1 ≤ month ∧ month ≤ 12)
      ∧ (1 ≤ day ∧ day ≤ daysInMonth year month)
      ∧ (hour < 24 ∧ minute < 60 ∧ second < 60 ∧ nanosecond < Nat.pow 10 9) then
    some ⟨year, month, day, hour, minute, second, nanosecond, h.1, h.2.1, h.2.2.1, h.2.2.2⟩
  else none

/-- The earlier date comes first, on one day the earlier time. -/
def order (s t : DateTime) : Ordering :=
  (compare s.year t.year).then <| (compare s.month t.month).then <| (compare s.day t.day).then <|
    (compare s.hour t.hour).then <| (compare s.minute t.minute).then <|
      (compare s.second t.second).then (compare s.nanosecond t.nanosecond)

/-- A natural number with leading zeros up to a width. -/
def padded (width value : Nat) : String :=
  let digits := Nat.toDigits 10 value
  String.ofList (List.replicate (width - digits.length) '0' ++ digits)

/-- The date, `YYYY-MM-DD`; a year before the year zero has a sign before its four digits. -/
def dateText (t : DateTime) : String :=
  let sign := if t.year < 0 then "-" else ""
  sign ++ padded 4 t.year.natAbs ++ "-" ++ padded 2 t.month ++ "-" ++ padded 2 t.day

/-- The fraction of a second without the zeros that end it, but with at least one digit. -/
def fractionText (t : DateTime) : String :=
  let digits := (padded 9 t.nanosecond).toList
  let kept := (digits.reverse.dropWhile (· == '0')).reverse
  if kept.isEmpty then "0" else String.ofList kept

/-- The plain text, `YYYY-MM-DD h:mm:ss.f`; the hour has no leading zero. -/
def toText (t : DateTime) : String :=
  t.dateText ++ " " ++ toString t.hour ++ ":" ++ padded 2 t.minute ++ ":" ++ padded 2 t.second
    ++ "." ++ t.fractionText

/-- The index text, `YYYY-MM-DD hh:mm:ss.ffff`; digits beyond the fourth place are cut off. -/
def indexText (t : DateTime) : String :=
  t.dateText ++ " " ++ padded 2 t.hour ++ ":" ++ padded 2 t.minute ++ ":" ++ padded 2 t.second
    ++ "." ++ padded 4 (t.nanosecond / Nat.pow 10 5)

end DateTime

end ContentQuery
