import CronSchedule.Calendar.Moment
import CronSchedule.Expression.Rejection

/-!
When a schedule fires: which readings of a clock satisfy an expression.
-/

namespace CronSchedule.Expression

/-- Whether the schedule fires on a day. Where both day fields are restricted, either is enough. -/
def selectsDay (e : Expression) (d : Date) : Bool :=
  if e.dayOfMonth.isUnrestricted && e.dayOfWeek.isUnrestricted then true
  else if e.dayOfMonth.isUnrestricted then e.dayOfWeek.selects d.weekday
  else if e.dayOfWeek.isUnrestricted then e.dayOfMonth.selects d.day
  else e.dayOfMonth.selects d.day || e.dayOfWeek.selects d.weekday

def selectsYear (e : Expression) (year : Nat) : Bool :=
  match e.year with
  | none => true
  | some f => f.isUnrestricted || f.selects year

/-- Whether the schedule fires at a reading; in minutes mode the seconds do not count. -/
def selects (e : Expression) (c : Civil) : Bool :=
  (e.mode = .minutes || e.second.selects c.second) && e.minute.selects c.minute &&
    e.hour.selects c.hour && e.month.selects c.date.month && e.selectsYear c.date.year &&
    e.selectsDay c.date

/-- Whether a valid expression fires at a reading. -/
def matches? (e : Expression) (c : Civil) : Except Rejection Bool :=
  (·.selects c) <$> e.requireValid

end CronSchedule.Expression
