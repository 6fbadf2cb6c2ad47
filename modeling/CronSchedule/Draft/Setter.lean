import CronSchedule.Draft.Selection

/-!
The changes that can be made to a draft: which slots each of them writes, and with what.
-/

namespace CronSchedule

inductive Setter where
  | withSeconds
  | atSecond (ns : List Int)
  | everySeconds (n : Int)
  | atMinute (ns : List Int)
  | everyMinutes (n : Int)
  | atHour (ns : List Int)
  | everyHours (n : Int)
  | betweenHours (first last : Int)
  | onDay (ns : List Int)
  | inMonth (ns : List Int)
  | onWeekday (ns : List Int)
  | onWorkingDays
  | onWeekends
  | everyDay
  | inYear (ns : List Int)
  | dailyAt (hour minute : Int)
  | hourlyAt (minute : Int)
  | field (slot : Slot) (token : String)

/-- The token of every `n`-th number. -/
def everyToken (n : Int) : String :=
  "*/" ++ Text.ofInt n

namespace Setter

/-- The texts that a setter writes. -/
def writes : Setter → List (Slot × String)
  | withSeconds => []
  | atSecond ns => [(.second, listToken ns)]
  | everySeconds n => [(.second, everyToken n)]
  | atMinute ns => [(.minute, listToken ns)]
  | everyMinutes n => [(.minute, everyToken n)]
  | atHour ns => [(.hour, listToken ns)]
  | everyHours n => [(.hour, everyToken n)]
  | betweenHours first last => [(.hour, Text.ofInt first ++ "-" ++ Text.ofInt last)]
  | onDay ns => [(.dayOfMonth, listToken ns)]
  | inMonth ns => [(.month, listToken ns)]
  | onWeekday ns => [(.dayOfWeek, listToken ns)]
  | onWorkingDays => [(.dayOfWeek, "1-5")]
  | onWeekends => [(.dayOfWeek, "0,6")]
  | everyDay => [(.dayOfMonth, "*"), (.dayOfWeek, "*")]
  | inYear ns => [(.year, listToken ns)]
  | dailyAt hour minute => [(.minute, Text.ofInt minute), (.hour, Text.ofInt hour)]
  | hourlyAt minute => [(.minute, Text.ofInt minute)]
  | field slot token => [(slot, token)]

/-- Whether a setter is about seconds, and so asks for seconds mode. -/
def usesSeconds : Setter → Bool
  | withSeconds => true
  | s => s.writes.any (·.1 = .second)

end Setter

/-- Makes one change to a draft. -/
def Draft.set (d : Draft) (s : Setter) : Draft :=
  let d := s.writes.foldl (fun d w => d.write w.1 w.2) d
  if s.usesSeconds then d.withMode .seconds else d

end CronSchedule
