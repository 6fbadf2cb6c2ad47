import CronSchedule.Draft.Setter
import CronSchedule.Number.Numeral

/-!
Calls of setters. A number with too many figures is not written out: the call stops there, and what it
has done so far stays.
-/

namespace CronSchedule

namespace Setter

/-- The numbers that each text of a setter is made of. -/
def numbers : Setter → List (List Int)
  | withSeconds => []
  | atSecond ns | atMinute ns | atHour ns | onDay ns | inMonth ns | onWeekday ns | inYear ns => [ns]
  | everySeconds n | everyMinutes n | everyHours n | hourlyAt n => [[n]]
  | betweenHours first last => [[first, last]]
  | onWorkingDays | onWeekends | field _ _ => [[]]
  | everyDay => [[], []]
  | dailyAt hour minute => [[minute], [hour]]

/-- The texts that a call comes to write: none any more from the first that cannot be written out. -/
def written (s : Setter) : List (Slot × String) :=
  ((s.writes.zip s.numbers).takeWhile fun w => w.2.all fun n => Text.IsShort n).map (·.1)

/-- The call is not stopped. -/
def completes (s : Setter) : Bool :=
  s.numbers.all fun ns => ns.all fun n => Text.IsShort n

end Setter

/-- Calls a setter; seconds mode is turned on before any text is written. -/
def Draft.call (d : Draft) (s : Setter) : Draft :=
  s.written.foldl (fun d w => d.write w.1 w.2) (if s.usesSeconds then d.withMode .seconds else d)

end CronSchedule
