import CronSchedule.Expression.Basic
import CronSchedule.Locale

/-!
Schedules so common that they have a phrase of their own.
-/

namespace CronSchedule

/-- A schedule and the phrases for it; the key is its five tokens. -/
structure Idiom where
  key : String
  english : String
  chinese : String
deriving DecidableEq

namespace Idiom

def all : List Idiom :=
  [⟨"* * * * *", "Every minute", "每分钟执行"⟩,
    ⟨"0 * * * *", "Every hour, on the hour", "每小时执行（整点）"⟩,
    ⟨"0 0 * * *", "Every day at midnight", "每天凌晨执行"⟩,
    ⟨"0 0 * * 1-5", "Every weekday at midnight", "每工作日凌晨执行"⟩,
    ⟨"0 0 1 * *", "At midnight on the 1st of every month", "每月1号凌晨执行"⟩,
    ⟨"*/5 * * * *", "Every 5 minutes", "每5分钟执行"⟩,
    ⟨"0 */2 * * *", "Every 2 hours", "每2小时执行"⟩,
    ⟨"0 0 * * 0", "Every Sunday at midnight", "每周日凌晨执行"⟩,
    ⟨"0 9 * * 1-5", "Weekdays at 9 AM", "工作日上午9点执行"⟩]

def phrase (i : Idiom) : Locale → String
  | .en => i.english
  | .zh => i.chinese

def ofKey? (key : String) : Option Idiom :=
  all.find? (·.key = key)

end Idiom

/-- The token of a field in a key, in which an open day is always an asterisk. -/
def Field.keyToken (f : Field) : String :=
  if f.token = "?" then "*" else f.token

namespace Expression

/-- Whether the expression is for every year. -/
def isYearly (e : Expression) : Bool :=
  e.year.all (·.isUnrestricted)

/-- Whether the expression can only fire on whole minutes. -/
def isOnMinute (e : Expression) : Bool :=
  e.mode = .minutes || e.second.token = "0"

/-- The key of the expression, if it fires on whole minutes of every year. -/
def idiomKey? (e : Expression) : Option String :=
  if e.isYearly && e.isOnMinute then
    some (" ".intercalate ((e.baseFields.drop 1).map (·.keyToken)))
  else none

def idiom? (e : Expression) : Option Idiom :=
  e.idiomKey?.bind Idiom.ofKey?

end Expression

end CronSchedule
