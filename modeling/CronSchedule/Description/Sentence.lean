import CronSchedule.Description.Fragment
import CronSchedule.Description.Idiom
import CronSchedule.Expression.Rejection

/-!
Schedules in words: an idiom where there is one, else a sentence put together field by field.
-/

namespace CronSchedule

namespace Expression

def fragments (l : Locale) (e : Expression) : List String :=
  e.written.filterMap (·.fragment? l)

/-- What is said of a schedule without restricted fields. -/
def everyUnit (e : Expression) : Message :=
  match e.mode with
  | .minutes => .everyMinute
  | .seconds => .everySecond

/-- The sentence put together from the fragments. -/
def composed (l : Locale) (e : Expression) : String :=
  let fragments := match e.fragments l with
    | [] => [e.everyUnit.say l []]
    | fs => fs
  Message.sentence.say l [(.body, (Message.connector.say l []).intercalate fragments)]

/-- The phrase of the idiom, if the schedule is one. -/
def canned? (l : Locale) (e : Expression) : Option String :=
  e.idiom?.map (·.phrase l)

def sentence (l : Locale) (e : Expression) : String :=
  (e.canned? l).getD (e.composed l)

/-- A valid expression in words. -/
def describe (l : Locale) (e : Expression) : Except Rejection String :=
  (·.sentence l) <$> e.requireValid

end Expression

/-- Any text in words, as far as it is a valid expression. -/
def describeSource (l : Locale) (source : String) (mode : Mode) : Except OverlongNumber String := do
  let p ← parse source mode
  return match p.valid? with
  | some e => e.sentence l
  | none => Message.invalidExpression.say l []

end CronSchedule
