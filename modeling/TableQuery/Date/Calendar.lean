/-!
# The calendar

Dates of the Gregorian calendar, reckoned in both directions, and points of time on them. A
`Stamp` is what a text gives for a date and a time of day before it is known whether there is such a
point of time.

* `Stamp.isValid`: is there such a point of time?
-/

namespace TableQuery.Date

/-- The first and the last year that dates may lie in. -/
def firstYear : Int := -262143
def lastYear : Int := 262142

def isLeapYear (year : Int) : Bool :=
  year % 4 = 0 && (year % 100 ≠ 0 || year % 400 = 0)

def daysInMonth (year : Int) (month : Nat) : Nat :=
  if month = 2 then (if isLeapYear year then 29 else 28)
  else if month = 4 ∨ month = 6 ∨ month = 9 ∨ month = 11 then 30
  else 31

/-- The number of days from the first of January of the year 0 to that of another year. -/
def daysBeforeYear (year : Int) : Int :=
  365 * year + (year + 3) / 4 - (year + 99) / 100 + (year + 399) / 400

/-- The number of days from the first of January to the first of a month. -/
def daysBeforeMonth (year : Int) (month : Nat) : Nat :=
  (List.range (month - 1)).foldl (fun days i => days + daysInMonth year (i + 1)) 0

/-- A date, a time of day, the day of the week if it is given and the number of minutes that the
time is ahead of the time at Greenwich. -/
structure Stamp where
  year : Int := 0
  month : Nat := 1
  day : Nat := 1
  hour : Nat := 0
  minute : Nat := 0
  second : Nat := 0
  weekday : Option Nat := none
  offset : Int := 0
deriving DecidableEq, Repr

namespace Stamp

/-- The number of days since the first of January of the year 0, a Saturday. -/
def dayNumber (s : Stamp) : Int :=
  daysBeforeYear s.year + daysBeforeMonth s.year s.month + (s.day - 1 : Int)

/-- The day of the week, counted from Monday. -/
def dayOfWeek (s : Stamp) : Int :=
  (s.dayNumber + 5) % 7

def isDate (s : Stamp) : Bool :=
  firstYear ≤ s.year && s.year ≤ lastYear && 1 ≤ s.month && s.month ≤ 12 &&
    1 ≤ s.day && s.day ≤ daysInMonth s.year s.month

/-- A minute may have a leap second. -/
def isTime (s : Stamp) : Bool :=
  s.hour ≤ 23 && s.minute ≤ 59 && s.second ≤ 60

/-- Does the date lie in the range of dates when it is put in the time at Greenwich? -/
def inRange (s : Stamp) : Bool :=
  let minutes := s.dayNumber * 1440 + (s.hour * 60 + s.minute : Nat) - s.offset
  daysBeforeYear firstYear * 1440 ≤ minutes && minutes < daysBeforeYear (lastYear + 1) * 1440

/-- Is there a point of time at which the clocks show this? -/
def isValid (s : Stamp) : Bool :=
  s.isDate && s.isTime && s.offset.natAbs < 1440 && s.inRange &&
    s.weekday.all fun w => s.dayOfWeek = w

end Stamp

end TableQuery.Date
