import CronSchedule.Calendar.Moment
import CronSchedule.Number.Binary64

/-!
Lengths of time in microseconds.
-/

namespace CronSchedule

/-- A length of time in microseconds, which may be negative. -/
structure Duration where
  micros : Int
deriving DecidableEq

namespace Duration

/-- Why a number of hours is no duration. -/
inductive Failure where
  | notANumber
  | infinite
  | tooManyDays (days : Int)
deriving DecidableEq

def Failure.message : Failure → String
  | notANumber => "cannot convert float NaN to integer"
  | infinite => "cannot convert float infinity to integer"
  | tooManyDays days =>
    if -2147483648 ≤ days ∧ days ≤ 2147483647 then
      "days=" ++ Text.ofInt days ++ "; must have magnitude <= 999999999"
    else "Python int too large to convert to C int"

def days (d : Duration) : Int :=
  d.micros / microsecondsPerDay

/-- The duration itself, if it is less than a thousand million days. -/
def bounded (d : Duration) : Except Failure Duration :=
  if -999999999 ≤ d.days ∧ d.days ≤ 999999999 then .ok d else .error (.tooManyDays d.days)

def microsecondsPerHour : Nat := 3600 * microsecondsPerSecond

/-- The microseconds of `mantissa * 2 ^ exponent` units. The whole units are exact; the rest of a
unit is a floating-point number of microseconds, and what is left of that is rounded with a half
going to the even total. -/
def microsOf (unit mantissa : Nat) (exponent : Int) : Nat :=
  let scale := powerOfTwo (-exponent).toNat
  let scaled := mantissa * powerOfTwo exponent.toNat
  match (Binary64.ofRatio false (scaled % scale * unit) scale).form with
  | .finite _ m e =>
    let den := powerOfTwo (-e).toNat
    roundedDiv (scaled / scale * unit * den + m * powerOfTwo e.toNat) den
  | _ => scaled / scale * unit

/-- The duration of a number of hours. -/
def ofHours (x : Binary64) : Except Failure Duration :=
  match x.form with
  | .nan => .error .notANumber
  | .infinite _ => .error .infinite
  | .finite negative m e =>
    let n : Int := microsOf microsecondsPerHour m e
    bounded ⟨if negative then -n else n⟩

/-- Days, if there are any, and the time that is left; a negative duration counts up from the day
before. -/
def text (d : Duration) : String :=
  let rest := Civil.ofTicks (d.micros % microsecondsPerDay).toNat
  let days :=
    if d.days = 0 then ""
    else if d.days = 1 ∨ d.days = -1 then Text.ofInt d.days ++ " day, "
    else Text.ofInt d.days ++ " days, "
  days ++ String.ofList (rest.timeText.drop (if rest.hour < 10 then 1 else 0))

end Duration

end CronSchedule
