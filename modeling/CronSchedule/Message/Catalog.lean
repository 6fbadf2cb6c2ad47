import CronSchedule.Locale
import CronSchedule.Message.Template

/-!
Every message and its wording in each language.
-/

namespace CronSchedule

/-- The messages: faults and warnings first, then what descriptions are made of. -/
inductive Message where
  | wrongCount
  | invalidField
  | emptyElement
  | repeatedList
  | notNumber
  | outOfRange
  | reversedRange
  | badStep
  | selectsNothing
  | questionNotAllowed
  | malformed
  | bothDaysRestricted
  | invalidExpression
  | noNextRun
  | crontabSeconds
  | sentence
  | connector
  | listSeparator
  | listLastSeparator
  | range
  | everySecond
  | everyMinute
  | onWeekdays
  | step
  | stepThrough
  | stepFrom
  | atSecond
  | atSeconds
  | atMinute
  | atMinutes
  | atHour
  | atHours
  | onDay
  | onDays
  | inMonths
  | onDaysOfWeek
  | inYears
deriving DecidableEq

namespace Message

def all : List Message :=
  [wrongCount, invalidField, emptyElement, repeatedList, notNumber, outOfRange, reversedRange,
    badStep, selectsNothing, questionNotAllowed, malformed, bothDaysRestricted, invalidExpression,
    noNextRun, crontabSeconds, sentence, connector, listSeparator, listLastSeparator, range,
    everySecond, everyMinute, onWeekdays, step, stepThrough, stepFrom, atSecond, atSeconds,
    atMinute, atMinutes, atHour, atHours, onDay, onDays, inMonths, onDaysOfWeek, inYears]

/-- The code that a message goes by outside the program. -/
def code : Message → String
  | wrongCount => "arity.mismatch"
  | invalidField => "field.invalid"
  | emptyElement => "field.empty_token"
  | repeatedList => "field.recursive"
  | notNumber => "field.not_number"
  | outOfRange => "field.out_of_range"
  | reversedRange => "field.reversed_range"
  | badStep => "field.bad_step"
  | selectsNothing => "field.selects_nothing"
  | questionNotAllowed => "field.question_not_allowed"
  | malformed => "field.malformed"
  | bothDaysRestricted => "warning.day_fields"
  | invalidExpression => "desc.invalid"
  | noNextRun => "desc.no_next_run"
  | crontabSeconds => "desc.crontab_seconds"
  | sentence => "desc.template"
  | connector => "desc.connector"
  | listSeparator => "desc.list_separator"
  | listLastSeparator => "desc.list_last_separator"
  | range => "desc.range"
  | everySecond => "desc.every_second"
  | everyMinute => "desc.every_minute"
  | onWeekdays => "desc.weekdays"
  | step => "desc.step"
  | stepThrough => "desc.step_range"
  | stepFrom => "desc.step_from"
  | atSecond => "desc.second.one"
  | atSeconds => "desc.second.many"
  | atMinute => "desc.minute.one"
  | atMinutes => "desc.minute.many"
  | atHour => "desc.hour.one"
  | atHours => "desc.hour.many"
  | onDay => "desc.day_of_month.one"
  | onDays => "desc.day_of_month.many"
  | inMonths => "desc.month"
  | onDaysOfWeek => "desc.day_of_week"
  | inYears => "desc.year"

def ofCode? (code : String) : Option Message :=
  all.find? (·.code = code)

def english : Message → Template
  | wrongCount =>
    [.text "Expected ", .hole .expected, .text " fields (plus an optional year), got ",
      .hole .actual]
  | invalidField =>
    [.hole .label, .text " field '", .hole .token, .text "' is invalid: ", .hole .reason]
  | emptyElement => [.text "empty list element in '", .hole .token, .text "'"]
  | repeatedList => [.text "list element '", .hole .token, .text "' repeats the whole list"]
  | notNumber => [.text "'", .hole .token, .text "' is not a number"]
  | outOfRange =>
    [.text "value ", .hole .value, .text " is outside ", .hole .low, .text "-", .hole .high]
  | reversedRange => [.text "range '", .hole .token, .text "' starts after it ends"]
  | badStep => [.text "step in '", .hole .token, .text "' must be a positive integer"]
  | selectsNothing =>
    [.text "'", .hole .token, .text "' selects no values in ", .hole .low, .text "-", .hole .high]
  | questionNotAllowed => [.text "'?' is only allowed in the day fields"]
  | malformed => [.text "unrecognized syntax '", .hole .token, .text "'"]
  | bothDaysRestricted =>
    [.text "Both day-of-month and day-of-week are restricted: ",
      .text "the schedule runs when either one matches, not only when both do"]
  | invalidExpression => [.text "Invalid expression"]
  | noNextRun => [.text "No next run found"]
  | crontabSeconds =>
    [.text "Standard crontab has no seconds field; ",
      .text "this line needs a scheduler that accepts six fields"]
  | sentence => [.text "Executes ", .hole .body]
  | connector => [.text ", "]
  | listSeparator => [.text ", "]
  | listLastSeparator => [.text " and "]
  | range => [.hole .start, .text " through ", .hole .stop]
  | everySecond => [.text "every second"]
  | everyMinute => [.text "every minute"]
  | onWeekdays => [.text "on weekdays"]
  | step => [.text "every ", .hole .step, .text " ", .hole .unit]
  | stepThrough =>
    [.text "every ", .hole .step, .text " ", .hole .unit, .text " from ", .hole .start,
      .text " through ", .hole .stop]
  | stepFrom =>
    [.text "every ", .hole .step, .text " ", .hole .unit, .text " starting at ", .hole .start]
  | atSecond => [.text "at second ", .hole .values]
  | atSeconds => [.text "at seconds ", .hole .values]
  | atMinute => [.text "at minute ", .hole .values]
  | atMinutes => [.text "at minutes ", .hole .values]
  | atHour => [.text "at hour ", .hole .values]
  | atHours => [.text "at hours ", .hole .values]
  | onDay => [.text "on day ", .hole .values, .text " of the month"]
  | onDays => [.text "on days ", .hole .values, .text " of the month"]
  | inMonths => [.text "in ", .hole .values]
  | onDaysOfWeek => [.text "on ", .hole .values]
  | inYears => [.text "in ", .hole .values]

def chinese : Message → Template
  | wrongCount => [.text "表达式应包含", .hole .expected, .text "个部分（年份可选），当前为", .hole .actual, .text "个"]
  | invalidField => [.hole .label, .text "字段\"", .hole .token, .text "\"无效：", .hole .reason]
  | emptyElement => [.text "\"", .hole .token, .text "\"中存在空的列表项"]
  | repeatedList => [.text "列表项\"", .hole .token, .text "\"与整个列表相同"]
  | notNumber => [.text "\"", .hole .token, .text "\"不是数字"]
  | outOfRange => [.text "数值", .hole .value, .text "超出范围", .hole .low, .text "-", .hole .high]
  | reversedRange => [.text "范围\"", .hole .token, .text "\"的起点大于终点"]
  | badStep => [.text "\"", .hole .token, .text "\"的步长必须是正整数"]
  | selectsNothing =>
    [.text "\"", .hole .token, .text "\"在", .hole .low, .text "-", .hole .high, .text "范围内没有可选值"]
  | questionNotAllowed => [.text "\"?\"只能用于日期或星期字段"]
  | malformed => [.text "无法识别的语法\"", .hole .token, .text "\""]
  | bothDaysRestricted => [.text "同时指定日期和星期：任一条件满足即执行，而不是两者同时满足"]
  | invalidExpression => [.text "表达式无效"]
  | noNextRun => [.text "未找到下次执行时间"]
  | crontabSeconds => [.text "标准 crontab 不支持秒字段，此行需要支持六个字段的调度器"]
  | sentence => [.hole .body, .text "执行"]
  | connector => [.text "，"]
  | listSeparator => [.text "、"]
  | listLastSeparator => [.text "、"]
  | range => [.hole .start, .text "到", .hole .stop]
  | everySecond => [.text "每秒"]
  | everyMinute => [.text "每分钟"]
  | onWeekdays => [.text "在工作日"]
  | step => [.text "每", .hole .step, .hole .unit]
  | stepThrough =>
    [.text "从", .hole .start, .text "到", .hole .stop, .text "每", .hole .step, .hole .unit]
  | stepFrom => [.text "从", .hole .start, .text "开始每", .hole .step, .hole .unit]
  | atSecond => [.text "在第", .hole .values, .text "秒"]
  | atSeconds => [.text "在第", .hole .values, .text "秒"]
  | atMinute => [.text "在第", .hole .values, .text "分钟"]
  | atMinutes => [.text "在第", .hole .values, .text "分钟"]
  | atHour => [.text "在", .hole .values]
  | atHours => [.text "在", .hole .values]
  | onDay => [.text "在", .hole .values]
  | onDays => [.text "在", .hole .values]
  | inMonths => [.text "在", .hole .values]
  | onDaysOfWeek => [.text "在", .hole .values]
  | inYears => [.text "在", .hole .values]

def template (m : Message) : Locale → Template
  | .en => m.english
  | .zh => m.chinese

/-- The message in words. -/
def say (m : Message) (l : Locale) (b : Bindings) : String :=
  (m.template l).fill b

theorem mem_all (m : Message) : m ∈ all := by
  cases m <;> decide

end Message

end CronSchedule
