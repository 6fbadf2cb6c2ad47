import CronSchedule.Datum.Basic
import CronSchedule.Number.DecimalText
import CronSchedule.Text.LowerCase

/-!
Settings from environment variables.
-/

namespace CronSchedule

/-- The variables of an environment, in order. -/
abbrev Environment := List (String × String)

namespace Environment

/-- The datum that the text of a variable stands for: one of a few words, a number, or itself. A
number with a point is a floating-point number. -/
def readValue (s : String) : Datum :=
  let word := Text.lower s
  if word = "true" ∨ word = "yes" ∨ word = "on" then .bool true
  else if word = "false" ∨ word = "no" ∨ word = "off" then .bool false
  else if word = "null" ∨ word = "none" ∨ word = "" then .null
  else
    let number :=
      if '.' ∈ s.toList then (DecimalText.readFloat? s).map Datum.float
      else (DecimalText.readInt? s).map Datum.int
    number.getD (.text s)

/-- What follows `start` in a text that starts with it. -/
def after? (start s : String) : Option String :=
  if start.toList.isPrefixOf s.toList then some (String.ofList (s.toList.drop start.length))
  else none

/-- The variables whose names start with `group` and an underscore, under the rest of their names in
lower case. -/
def members (env : Environment) (group : String) : Members :=
  Association.ofList (env.filterMap fun (name, value) =>
    (after? (group ++ "_") name).map fun rest => (.text (Text.lower rest), readValue value))

end Environment

end CronSchedule
