import CronSchedule.Calendar.Zone
import CronSchedule.Datum.Json
import CronSchedule.Log.Level

/-!
Log records, and the two layouts that they are written in.
-/

namespace CronSchedule

/-- Something that was logged; the moment is in universal time. -/
structure LogRecord where
  logger : String
  level : Int
  message : String
  created : Moment
  error : Option Exception
deriving DecidableEq

/-- What the clock of the machine shows at a moment of universal time. -/
abbrev LocalClock := Moment → Moment

/-- How records are written. -/
inductive Layout where
  | console (coloured : Bool)
  | json
deriving DecidableEq

namespace Layout

/-- The layout of a name, without colours. -/
def ofName? (name : String) : Option Layout :=
  if name = "console" then some (console false)
  else if name = "json" then some json
  else none

end Layout

namespace LogRecord

/-- A code that a terminal reads as a change of colour. -/
def colourCode (n : String) : String :=
  "\x1b[" ++ n ++ "m"

/-- The name of the level in at least eight columns; a colour always ends after it. -/
def levelText (coloured : Bool) (r : LogRecord) : String :=
  let name := String.ofList ((LogLevel.nameOf r.level).toList.rightpad 8 ' ')
  if coloured then
    ((LogLevel.ofValue? r.level).map fun l => colourCode l.colour).getD "" ++ name ++ colourCode "0"
  else name

/-- The local time of day, the level, the logger and the message; an error follows on a line of its
own. -/
def consoleText (here : LocalClock) (coloured : Bool) (r : LogRecord) : String :=
  let c := (here r.created).civil
  let time := String.ofList (Civil.timeText { c with microsecond := 0 })
  let line := time ++ " " ++ r.levelText coloured ++ " [" ++ r.logger ++ "] " ++ r.message
  match r.error with
  | none => line
  | some e => line ++ "\n" ++ e.display

/-- The record as a datum, with its moment in universal time. -/
def datum (r : LogRecord) : Datum :=
  let error : Option (Key × Datum) := r.error.map fun e => ("exception", .text e.display)
  let members : Members :=
    [("timestamp", .text (Stamp.isoText ⟨r.created, some (Zone.ofOffset 0)⟩)),
      ("level", .text (LogLevel.nameOf r.level)), ("logger", .text r.logger),
      ("message", .text r.message)]
  .record (members ++ error.toList)

/-- The record in a layout. -/
def text (here : LocalClock) (r : LogRecord) : Layout → String
  | .console coloured => r.consoleText here coloured
  | .json => r.datum.line

end LogRecord

end CronSchedule
