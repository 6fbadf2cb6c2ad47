/-!
Errors that no rule of the library foresees.
-/

namespace CronSchedule

/-- An error by the name of its kind, and what it says. -/
structure Exception where
  kind : String
  text : String
deriving DecidableEq

namespace Exception

/-- The kind of the error, and its text if it has one. -/
def display (e : Exception) : String :=
  if e.text = "" then e.kind else e.kind ++ ": " ++ e.text

end Exception

end CronSchedule
