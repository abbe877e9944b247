/-!
# The calendar

Dates of the proleptic Gregorian calendar and their day numbers, counted from the first of
January 1970.  `Date.dayNumber` counts the days of the years and months before a date, and
`Date.ofDayNumber` finds the year whose first day is the last one not after the day.
-/

namespace QueryFilter

/-- A year, a month and a day. -/
structure Date where
  year : Int
  month : Nat
  day : Nat
  deriving DecidableEq

namespace Date

/-- Every fourth year is a leap year, of the full centuries only every fourth. -/
def isLeap (year : Int) : Bool := year % 4 == 0 && (year % 100 != 0 || year % 400 == 0)

/-- The lengths of the months of a year. -/
def monthLengths (year : Int) : List Nat :=
  [31, if isLeap year then 29 else 28, 31, 30, 31, 30, 31, 31, 30, 31, 30, 31]

/-- The number of leap years from year `1` to the given year. -/
def leapYears (year : Int) : Int := year / 4 - year / 100 + year / 400

/-- The day number of the first of January. -/
def yearStart (year : Int) : Int := 365 * (year - 1970) + leapYears (year - 1) - leapYears 1969

/-- The month and the day exist. -/
def isValid (d : Date) : Bool :=
  1 ≤ d.month && 1 ≤ d.day &&
    match (monthLengths d.year)[d.month - 1]? with
    | some length => d.day ≤ length
    | none => false

/-- The number of days of months with these lengths. -/
def totalDays : List Nat → Nat
  | [] => 0
  | length :: lengths => length + totalDays lengths

/-- The day number of a date. -/
def dayNumber (d : Date) : Int :=
  yearStart d.year + totalDays ((monthLengths d.year).take (d.month - 1)) + (d.day - 1 : Nat)

/-- The month and the day that are `day` days after the first of a month `month`, given the
lengths of the months from that one on. -/
def monthAndDay (month : Nat) : List Nat → Nat → Nat × Nat
  | [], day => (month, day + 1)
  | length :: lengths, day =>
    if day < length then (month, day + 1) else monthAndDay (month + 1) lengths (day - length)

/-- The year in which a day lies. A year has `146097 / 400` days on average, which finds the year
up to one. -/
def yearOf (dayNumber : Int) : Int :=
  let guess := 1970 + 400 * dayNumber / 146097
  if dayNumber < yearStart guess then guess - 1
  else if yearStart (guess + 1) ≤ dayNumber then guess + 1
  else guess

/-- The date with the given day number. -/
def ofDayNumber (dayNumber : Int) : Date :=
  let year := yearOf dayNumber
  let (month, day) := monthAndDay 1 (monthLengths year) (dayNumber - yearStart year).toNat
  ⟨year, month, day⟩

end Date

end QueryFilter
