import CronSchedule.Log.Record
import CronSchedule.Text.Quoted

/-!
The one logger of the library. It writes to the stream that it was last set up with, if any, the
records of its hierarchy that are grave enough.
-/

namespace CronSchedule

/-- Where records go, and how they are written. -/
structure LogHandler where
  layout : Layout
  stream : Nat
deriving DecidableEq

structure Logger where
  handler : Option LogHandler
  /-- The least level that is written; 0 if none is set. -/
  level : Int
deriving DecidableEq

/-- What can happen to the logger. -/
inductive LogEvent where
  | configure (level : Int) (layout : String) (stream : Nat)
  | reset
  | record (r : LogRecord)
deriving DecidableEq

/-- A layout that there is none of. -/
structure UnknownLayout where
  name : String
deriving DecidableEq

def UnknownLayout.message (u : UnknownLayout) : String :=
  "Unknown log format: " ++ Text.quoted u.name

namespace Logger

/-- The name of the logger. -/
def name : String := "cronlens"

/-- The logger before it is set up, and after a reset. -/
def unset : Logger :=
  ⟨none, 0⟩

/-- Whether records are handed on to loggers outside the hierarchy. -/
def propagates (l : Logger) : Bool :=
  l.handler.isNone

/-- The least level that is written where none is set: the one that all loggers start with. -/
def threshold (l : Logger) : Int :=
  if l.level = 0 then LogLevel.warning.value else l.level

/-- Whether a logger of that name hands its records to this one: its name goes on with a dot. Of
dots in a row only every other one parts two names. -/
def isAbove (other : String) : Bool :=
  name.toList.isPrefixOf other.toList &&
    let rest := other.toList.drop name.length
    rest = [] || (rest.takeWhile (· = '.')).length % 2 = 1

/-- Whether what is logged by a logger of that name is written. Levels up to 0 never are. -/
def admitsFrom (l : Logger) (other : String) (level : Int) : Bool :=
  isAbove other && 0 < level && l.threshold ≤ level

def admits (l : Logger) (r : LogRecord) : Bool :=
  l.admitsFrom r.logger r.level

/-- What is written for a record: a stream and a line. -/
def write (here : LocalClock) (l : Logger) (r : LogRecord) : List (Nat × String) :=
  match l.handler with
  | none => []
  | some h => if l.admits r then [(h.stream, r.text here h.layout ++ "\n")] else []

/-- Sets the logger up anew; with an unknown layout nothing changes. -/
def configure (level : Int) (layout : String) (stream : Nat) : Except UnknownLayout Logger :=
  match Layout.ofName? layout with
  | none => .error ⟨layout⟩
  | some layout => .ok ⟨some ⟨layout, stream⟩, level⟩

/-- The logger after an event, and what the event made it write. -/
def step (here : LocalClock) (l : Logger) : LogEvent → Except UnknownLayout (Logger × List (Nat × String))
  | .configure level layout stream => (·, []) <$> configure level layout stream
  | .reset => .ok (unset, [])
  | .record r => .ok (l, l.write here r)

end Logger

end CronSchedule
