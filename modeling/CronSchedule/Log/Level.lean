import CronSchedule.Text.Figures
import CronSchedule.Text.LowerCase

/-!
How grave a log record is: any number, five of which have a name of their own.
-/

namespace CronSchedule

inductive LogLevel where
  | debug
  | info
  | warning
  | error
  | critical
deriving DecidableEq

namespace LogLevel

def all : List LogLevel :=
  [debug, info, warning, error, critical]

def value : LogLevel → Int
  | debug => 10
  | info => 20
  | warning => 30
  | error => 40
  | critical => 50

def name : LogLevel → String
  | debug => "DEBUG"
  | info => "INFO"
  | warning => "WARNING"
  | error => "ERROR"
  | critical => "CRITICAL"

/-- The number of the colour that the level is shown in. -/
def colour : LogLevel → String
  | debug => "36"
  | info => "32"
  | warning => "33"
  | error => "31"
  | critical => "35"

def ofValue? (n : Int) : Option LogLevel :=
  all.find? (·.value = n)

/-- The levels by their names in lower case, two of which have a second name. -/
def named : List (String × LogLevel) :=
  [("debug", debug), ("info", info), ("warning", warning), ("warn", warning), ("error", error),
    ("critical", critical), ("fatal", critical)]

/-- The level of a name; any other text stands for `info`. -/
def ofName (name : String) : LogLevel :=
  (named.lookup (Text.lower name)).getD info

/-- The name of a level number. -/
def nameOf (n : Int) : String :=
  match ofValue? n with
  | some l => l.name
  | none => if n = 0 then "NOTSET" else "Level " ++ Text.ofInt n

end LogLevel

end CronSchedule
