/-!
Dates of the Gregorian calendar, extended to all years from 1 to 9999, and their day numbers.
-/

namespace CronSchedule

def isLeapYear (y : Nat) : Bool :=
  y % 4 = 0 && (y % 100 ≠ 0 || y % 400 = 0)

/-- The lengths of the months of a year. -/
def monthLengths (leap : Bool) : List Nat :=
  [31, if leap then 29 else 28, 31, 30, 31, 30, 31, 31, 30, 31, 30, 31]

/-- The number of days from the start of year 1 to the start of year `y`. -/
def daysBeforeYear (y : Nat) : Nat :=
  365 * (y - 1) + (y - 1) / 4 - (y - 1) / 100 + (y - 1) / 400

structure Date where
  year : Nat
  month : Nat
  day : Nat
deriving DecidableEq

namespace Date

/-- The length of the month of a date. -/
def monthLength (d : Date) : Nat :=
  (monthLengths (isLeapYear d.year)).getD (d.month - 1) 0

def isValid (d : Date) : Bool :=
  1 ≤ d.year && d.year ≤ 9999 && 1 ≤ d.month && d.month ≤ 12 && 1 ≤ d.day &&
    d.day ≤ d.monthLength

/-- The number of days of the year before the month of a date. -/
def daysBeforeMonth (d : Date) : Nat :=
  ((monthLengths (isLeapYear d.year)).take (d.month - 1)).foldr (· + ·) 0

/-- The number of days since the first day of year 1. -/
def number (d : Date) : Nat :=
  daysBeforeYear d.year + d.daysBeforeMonth + (d.day - 1)

/-- The month and day of the `n`-th day of a run of months, both counted from 1. -/
def monthDay : List Nat → Nat → Nat × Nat
  | [], n => (1, n + 1)
  | length :: rest, n =>
    if n < length then (1, n + 1)
    else
      let (month, day) := monthDay rest (n - length)
      (month + 1, day)

/-- The date with a day number: the last year of four, and the last century of four, may be a day
longer than the others. -/
def ofNumber (n : Nat) : Date :=
  let inCycle := n % 146097
  let century := min 3 (inCycle / 36524)
  let inCentury := inCycle - 36524 * century
  let inFour := inCentury % 1461
  let year := min 3 (inFour / 365)
  let y := 400 * (n / 146097) + 100 * century + 4 * (inCentury / 1461) + year + 1
  let (month, day) := monthDay (monthLengths (isLeapYear y)) (inFour - 365 * year)
  ⟨y, month, day⟩

/-- The day of the week, counted from Sunday; day number 0 is a Monday. -/
def weekday (d : Date) : Nat :=
  (d.number + 1) % 7

end Date

end CronSchedule
