import CronSchedule.Calendar.Moment

/-!
Readings of a clock from numbers that need not make one.
-/

namespace CronSchedule.Civil

/-- The part of a reading that is out of its range. -/
inductive Fault where
  | year (value : Int)
  | month
  | day
  | hour
  | minute
  | second
  | microsecond
deriving DecidableEq

def Fault.message : Fault → String
  | year value => "year " ++ Text.ofInt value ++ " is out of range"
  | month => "month must be in 1..12"
  | day => "day is out of range for month"
  | hour => "hour must be in 0..23"
  | minute => "minute must be in 0..59"
  | second => "second must be in 0..59"
  | microsecond => "microsecond must be in 0..999999"

/-- The number, if it lies between `low` and `high`. -/
def partOf (n : Int) (low high : Nat) (fault : Fault) : Except Fault Nat :=
  if low ≤ n ∧ n ≤ high then .ok n.toNat else .error fault

/-- The reading with the parts in a list from the year on; the parts that are missing are zero. -/
def ofParts (parts : List Int) : Except Fault Civil := do
  let part (i : Nat) : Int := parts.getD i 0
  let year ← partOf (part 0) 1 9999 (.year (part 0))
  let month ← partOf (part 1) 1 12 .month
  let day ← partOf (part 2) 1 (Date.monthLength ⟨year, month, 1⟩) .day
  let hour ← partOf (part 3) 0 23 .hour
  let minute ← partOf (part 4) 0 59 .minute
  let second ← partOf (part 5) 0 59 .second
  let microsecond ← partOf (part 6) 0 999999 .microsecond
  return ⟨⟨year, month, day⟩, hour, minute, second, microsecond⟩

end CronSchedule.Civil
