import CronSchedule.Expression.Report

/-!
The parts of a description: what each restricted field adds to the sentence.
-/

namespace CronSchedule

/-- From one value through another. -/
def Locale.through (l : Locale) (start stop : String) : String :=
  Message.range.say l [(.start, start), (.stop, stop)]

/-- Several items, the last two with a separator of their own. -/
def Locale.listing (l : Locale) (items : List String) : String :=
  match items.reverse with
  | [] => ""
  | [item] => item
  | last :: rest =>
    (Message.listSeparator.say l []).intercalate rest.reverse ++
      Message.listLastSeparator.say l [] ++ last

namespace Base

/-- The values of a base. -/
def phrase (l : Locale) (slot : Slot) : Base → String
  | every => l.through (l.value slot slot.bounds.low) (l.value slot slot.bounds.high)
  | single n => l.value slot n.value
  | span first last => l.through (l.value slot first.value) (l.value slot last.value)

/-- A step through a base; the step is shown as it was written. -/
def stepPhrase (l : Locale) (slot : Slot) (step : Numeral) (base : Base) : String :=
  let every : Bindings :=
    [(.step, String.ofList step.digits), (.unit, l.stepUnit slot)]
  match base with
  | .every => Message.step.say l every
  | .single n => Message.stepFrom.say l (every ++ [(.start, l.value slot n.value)])
  | .span first last =>
    Message.stepThrough.say l
      (every ++ [(.start, l.value slot first.value), (.stop, l.value slot last.value)])

end Base

namespace Element

def phrase (l : Locale) (slot : Slot) : Element → String
  | plain base => base.phrase l slot
  | stepped base step => base.stepPhrase l slot step

/-- Whether the elements are one number and no more. -/
def isOne : List Element → Bool
  | [plain (.single _)] => true
  | _ => false

end Element

/-- What is said of one value of a slot. -/
def Slot.one : Slot → Message
  | second => .atSecond
  | minute => .atMinute
  | hour => .atHour
  | dayOfMonth => .onDay
  | month => .inMonths
  | dayOfWeek => .onDaysOfWeek
  | year => .inYears

/-- What is said of several values of a slot. -/
def Slot.many : Slot → Message
  | second => .atSeconds
  | minute => .atMinutes
  | hour => .atHours
  | dayOfMonth => .onDays
  | month => .inMonths
  | dayOfWeek => .onDaysOfWeek
  | year => .inYears

namespace Field

/-- The working days as they are usually written. -/
def isWorkingDays (f : Field) : Bool :=
  f.slot = .dayOfWeek && f.token = "1-5"

/-- The elements of a field in words. -/
def phrase (l : Locale) (f : Field) (es : List Element) : String :=
  match es with
  | [.stepped base step] => base.stepPhrase l f.slot step
  | _ =>
    if f.isWorkingDays then Message.onWeekdays.say l []
    else
      let m := if Element.isOne es then f.slot.one else f.slot.many
      m.say l [(.values, l.listing (es.map (·.phrase l f.slot)))]

/-- What the field adds to a description; a field that is open adds nothing. -/
def fragment? (l : Locale) (f : Field) : Option String :=
  match f.reading with
  | .listed es _ => some (f.phrase l es)
  | _ => none

end Field

end CronSchedule
