/-!
# The Gregorian calendar

Dates of the Gregorian calendar, extended backwards and forwards without a change of rule, and the
count of days on which they lie. `Date.dayNumber` numbers the dates so that 1970-01-01 is day
number zero; `Date.ofDayNumber` finds the date of a day number by peeling off cycles of 400, 100,
4 and 1 years and then whole months.

The numbering is the bridge between the two views of a moment that this library needs: texts are
written field by field, while windows and series compare moments on one line.
-/

set_option autoImplicit false

namespace SwarmChart

/-- Every fourth year is long, centuries excepted, every fourth century included. -/
def isLeapYear (year : Int) : Bool :=
  year % 4 == 0 && (year % 100 != 0 || year % 400 == 0)

/-- The number of days in a year. -/
def yearLength (year : Int) : Nat := if isLeapYear year then 366 else 365

/-- The lengths of the twelve months in order. -/
def monthLengths (leap : Bool) : List Nat :=
  [31, if leap then 29 else 28, 31, 30, 31, 30, 31, 31, 30, 31, 30, 31]

/-- The days of a year that lie before its month number `month`, counted from one. -/
def daysBeforeMonth (leap : Bool) (month : Nat) : Nat :=
  ((monthLengths leap).take (month - 1)).foldr (· + ·) 0

/-- The days from the first of January of year 1 to the first of January of `year`. -/
def daysBeforeYear (year : Int) : Int :=
  365 * (year - 1) + (year - 1) / 4 - (year - 1) / 100 + (year - 1) / 400

/-- The day 1970-01-01, counted from the first of January of year 1. -/
def epochOffset : Int := 719162

/-- A date named by its fields. -/
structure Date where
  /-- Year zero stands before year one, and negative years before that. -/
  year : Int
  /-- Months count from one. -/
  month : Nat
  /-- Days of the month count from one. -/
  day : Nat
  deriving DecidableEq, Repr

namespace Date

/-- The fields name a day that the calendar has. -/
def isValid (date : Date) : Bool :=
  1 ≤ date.month && date.month ≤ 12 && 1 ≤ date.day &&
    date.day ≤ (monthLengths (isLeapYear date.year)).getD (date.month - 1) 0

/-- The number of a date, zero for 1970-01-01 and one more for each day after it. -/
def dayNumber (date : Date) : Int :=
  daysBeforeYear date.year + daysBeforeMonth (isLeapYear date.year) date.month
    + date.day - 1 - epochOffset

/-- Month and day of the month of a day of the year, both from one: months of the given lengths
are passed over while the day lies beyond them. -/
def inMonths : List Nat → Nat → Nat → Nat × Nat
  | [], month, day => (month, day + 1)
  | length :: later, month, day =>
    if day < length then (month, day + 1) else inMonths later (month + 1) (day - length)

/-- The year of a day counted from the first of January of year 1, with its day of the year from
zero. The last day of a leap cycle would start one period too many, so two of the quotients are
held at three. -/
def yearOfDay (day : Int) : Int × Nat :=
  let inCycle := (day % 146097).toNat
  -- The fourth century of a cycle has one day more than 36524.
  let century := min (inCycle / 36524) 3
  let inCentury := inCycle - 36524 * century
  let quad := inCentury / 1461
  let inQuad := inCentury % 1461
  -- So has the fourth of four years, one more than 365.
  let single := min (inQuad / 365) 3
  (400 * (day / 146097) + 100 * century + 4 * quad + single + 1, inQuad - 365 * single)

/-- The date that has a day number. -/
def ofDayNumber (number : Int) : Date :=
  let (year, inYear) := yearOfDay (number + epochOffset)
  let (month, day) := inMonths (monthLengths (isLeapYear year)) 1 inYear
  ⟨year, month, day⟩

/-- The first date that the program can hold. -/
def first : Date := ⟨-262143, 1, 1⟩

/-- The last date that the program can hold. -/
def last : Date := ⟨262142, 12, 31⟩

/-- A date within the years that the program can hold. -/
def inRange (date : Date) : Bool :=
  first.year ≤ date.year && date.year ≤ last.year

end Date

end SwarmChart
