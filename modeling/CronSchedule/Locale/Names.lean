import CronSchedule.Locale
import CronSchedule.Slot
import CronSchedule.Text.Figures

/-!
What slots, weekdays, months and values are called in each language.
-/

namespace CronSchedule.Locale

/-- The name of a slot in a message. -/
def label : Locale → Slot → String
  | en, .second => "Second"
  | en, .minute => "Minute"
  | en, .hour => "Hour"
  | en, .dayOfMonth => "Day-of-month"
  | en, .month => "Month"
  | en, .dayOfWeek => "Day-of-week"
  | en, .year => "Year"
  | zh, .second => "秒"
  | zh, .minute => "分钟"
  | zh, .hour => "小时"
  | zh, .dayOfMonth => "日期"
  | zh, .month => "月份"
  | zh, .dayOfWeek => "星期"
  | zh, .year => "年份"

/-- What a step through a slot counts. -/
def stepUnit : Locale → Slot → String
  | en, .second => "seconds"
  | en, .minute => "minutes"
  | en, .hour => "hours"
  | en, .dayOfMonth => "days"
  | en, .month => "months"
  | en, .dayOfWeek => "days of the week"
  | en, .year => "years"
  | zh, .second => "秒"
  | zh, .minute => "分钟"
  | zh, .hour => "小时"
  | zh, .dayOfMonth => "天"
  | zh, .month => "个月"
  | zh, .dayOfWeek => "天"
  | zh, .year => "年"

/-- The days of the week from Sunday. -/
def weekdays : Locale → Vector String 7
  | en => #v["Sunday", "Monday", "Tuesday", "Wednesday", "Thursday", "Friday", "Saturday"]
  | zh => #v["周日", "周一", "周二", "周三", "周四", "周五", "周六"]

def months : Locale → Vector String 12
  | en => #v["January", "February", "March", "April", "May", "June", "July", "August",
      "September", "October", "November", "December"]
  | zh => #v["1月", "2月", "3月", "4月", "5月", "6月", "7月", "8月", "9月", "10月", "11月", "12月"]

/-- The name of a day of the week, which counts round from Sunday. -/
def weekday (l : Locale) (n : Int) : String :=
  l.weekdays[(n % 7).toNat]

/-- The name of a month, which counts round from January, month 1. -/
def month (l : Locale) (n : Int) : String :=
  l.months[((n - 1) % 12).toNat]

/-- The name of a month at most one year off the calendar. -/
def month? (l : Locale) (n : Int) : Option String :=
  if -11 ≤ n ∧ n ≤ 12 then some (l.month n) else none

/-- What follows a plain number in a description. -/
def valueSuffix : Locale → Slot → String
  | zh, .hour => "点"
  | zh, .dayOfMonth => "号"
  | zh, .year => "年"
  | _, _ => ""

/-- A value of a slot in a description. -/
def value (l : Locale) : Slot → Int → String
  | .dayOfWeek, n => l.weekday n
  | .month, n => l.month n
  | slot, n => Text.ofInt n ++ l.valueSuffix slot

/-- The label of the slot of that name; any other name stands for itself. -/
def labelOf (l : Locale) (name : String) : String :=
  match Slot.ofName? name with
  | some slot => l.label slot
  | none => name

def stepUnitOf? (l : Locale) (name : String) : Option String :=
  (Slot.ofName? name).map l.stepUnit

/-- A value of the slot of that name; `none` for a month that is off the calendar. -/
def valueOf? (l : Locale) (name : String) (n : Int) : Option String :=
  match Slot.ofName? name with
  | some .month => l.month? n
  | some slot => some (l.value slot n)
  | none => some (Text.ofInt n)

end CronSchedule.Locale
