import CronSchedule.Calendar.Duration

/-!
Moments from the seconds since the start of 1970 that a clock counts in floating point.
-/

namespace CronSchedule

/-- Why a number of seconds leads to no moment. -/
inductive EpochError where
  /-- There are more seconds than a clock counts. -/
  | uncounted
  /-- The year has more digits than a calendar keeps. -/
  | unkept
  | outOfYears (year : Int)
deriving DecidableEq

namespace EpochError

def message : EpochError → String
  | uncounted => "timestamp out of range for platform time_t"
  | unkept => "[Errno 75] Value too large for defined data type"
  | outOfYears year => "year " ++ Text.ofInt year ++ " is out of range"

/-- The year of a number of microseconds since the start of 1970; every 400 years the calendar
repeats. -/
def yearOf (micros : Int) : Int :=
  let day := (micros + Moment.epoch.ticks) / microsecondsPerDay
  400 * (day / 146097) + (Date.ofNumber (day % 146097).toNat).year

/-- What is wrong with a number of microseconds since the start of 1970 that leads to no moment. -/
def ofMicros (micros : Int) : EpochError :=
  let seconds := micros / microsecondsPerSecond
  let year := yearOf micros
  if seconds < -powerOfTwo 63 ∨ powerOfTwo 63 ≤ seconds then uncounted
  else if -2147481748 ≤ year ∧ year ≤ 2147485547 then outOfYears year
  else unkept

end EpochError

namespace Moment

/-- The moment some microseconds after the start of 1970, or before it. -/
def ofMicros (micros : Int) : Except EpochError Moment :=
  match epoch.shift? micros with
  | some m => .ok m
  | none => .error (.ofMicros micros)

/-- The moment some seconds after the start of 1970, or before it, to the nearest microsecond. A
clock that keeps local time may have been set back, so it has to know the day before as well. -/
def ofSeconds (x : Binary64) (isLocal : Bool) : Except EpochError Moment :=
  match x.form with
  | .finite negative m e => do
    let size : Int := Duration.microsOf microsecondsPerSecond m e
    let micros := if negative then -size else size
    let moment ← ofMicros micros
    if isLocal then
      let _ ← ofMicros (micros - microsecondsPerDay)
    return moment
  | _ => .error .uncounted

end Moment

end CronSchedule
