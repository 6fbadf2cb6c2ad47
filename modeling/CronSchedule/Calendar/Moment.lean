import CronSchedule.Calendar.Date
import CronSchedule.Text.Figures

/-!
Readings of a clock with a calendar, and the points of its time line that they stand for.
-/

namespace CronSchedule

/-- A date and a time of day. -/
structure Civil where
  date : Date
  hour : Nat
  minute : Nat
  second : Nat
  microsecond : Nat
deriving DecidableEq

def microsecondsPerSecond : Nat := 1000000

def microsecondsPerDay : Nat := 86400 * microsecondsPerSecond

/-- A point of a clock's time line, in microseconds since the start of year 1 and before the end of
year 9999. -/
structure Moment where
  ticks : Nat
  ticks_lt : ticks < daysBeforeYear 10000 * microsecondsPerDay
deriving DecidableEq

namespace Civil

def isValid (c : Civil) : Bool :=
  c.date.isValid && c.hour < 24 && c.minute < 60 && c.second < 60 &&
    c.microsecond < microsecondsPerSecond

/-- Microseconds since the start of year 1. -/
def ticks (c : Civil) : Nat :=
  c.date.number * microsecondsPerDay +
    ((c.hour * 60 + c.minute) * 60 + c.second) * microsecondsPerSecond + c.microsecond

/-- The day and time that a number of microseconds since the start of year 1 leads to. -/
def ofTicks (n : Nat) : Civil :=
  let inDay := n % microsecondsPerDay
  let seconds := inDay / microsecondsPerSecond
  ⟨Date.ofNumber (n / microsecondsPerDay), seconds / 3600, seconds / 60 % 60, seconds % 60,
    inDay % microsecondsPerSecond⟩

/-- The moment of a reading, if there is such a day and time. -/
def moment? (c : Civil) : Option Moment :=
  if h : c.isValid ∧ c.ticks < daysBeforeYear 10000 * microsecondsPerDay then
    some ⟨c.ticks, h.2⟩
  else none

/-- The time of day, with the microseconds only if they are not zero. -/
def timeText (c : Civil) : List Char :=
  let fraction := if c.microsecond = 0 then [] else '.' :: Text.padded 6 c.microsecond
  Text.padded 2 c.hour ++ ':' :: Text.padded 2 c.minute ++ ':' :: Text.padded 2 c.second ++ fraction

def isoText (c : Civil) : List Char :=
  Text.padded 4 c.date.year ++ '-' :: Text.padded 2 c.date.month ++ '-' ::
    Text.padded 2 c.date.day ++ 'T' :: c.timeText

end Civil

namespace Moment

def civil (m : Moment) : Civil :=
  Civil.ofTicks m.ticks

/-- The moment a number of microseconds later, or earlier, if it is still on the time line. -/
def shift? (m : Moment) (d : Int) : Option Moment :=
  let n := (m.ticks + d : Int)
  if h : 0 ≤ n ∧ n.toNat < daysBeforeYear 10000 * microsecondsPerDay then some ⟨n.toNat, h.2⟩
  else none

/-- The last moment up to `m` that is a whole number of units after the start of year 1. -/
def truncate (m : Moment) (unit : Nat) : Moment :=
  ⟨m.ticks - m.ticks % unit, Nat.lt_of_le_of_lt (Nat.sub_le _ _) m.ticks_lt⟩

/-- The start of the year 1970. -/
def epoch : Moment :=
  ⟨719162 * microsecondsPerDay, by decide⟩

@[simp] theorem ticks_truncate (m : Moment) (unit : Nat) :
    (m.truncate unit).ticks = m.ticks - m.ticks % unit := rfl

end Moment

end CronSchedule
