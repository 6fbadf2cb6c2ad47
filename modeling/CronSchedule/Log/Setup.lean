import CronSchedule.Log.Logger

/-!
The logger as it is set up: the handlers that it carries, the one among them that was installed last, and
whether records are handed on.
-/

namespace CronSchedule

/-- Something that lines are written to. -/
structure LogStream where
  number : Nat
  isTerminal : Bool
deriving DecidableEq

/-- The layout as it is written to a stream: only a terminal is shown colours. -/
def Layout.on (stream : LogStream) : Layout → Layout
  | console _ => console stream.isTerminal
  | json => json

/-- A level as it is asked for. -/
inductive LevelChoice where
  | name (s : String)
  | number (n : Int)
deriving DecidableEq

def LevelChoice.value : LevelChoice → Int
  | name s => (LogLevel.ofName s).value
  | number n => n

/-- What the logger is to be like; without a stream it writes to standard error. -/
structure LogRequest where
  level : LevelChoice
  layout : String
  stream : Option LogStream
deriving DecidableEq

namespace LogRequest

def target (stderr : LogStream) (q : LogRequest) : LogStream :=
  q.stream.getD stderr

/-- The layout that is asked for, if there is one of that name. -/
def layout? (stderr : LogStream) (q : LogRequest) : Option Layout :=
  (Layout.ofName? q.layout).map (·.on (q.target stderr))

end LogRequest

/-- A handler that was made; two of them are never the same, though they may write alike. -/
structure NumberedHandler where
  number : Nat
  layout : Layout
  stream : LogStream
deriving DecidableEq

structure LogSetup where
  /-- The handler that was installed last, unless it was taken away since. -/
  installed : Option NumberedHandler
  /-- The handlers that the logger carries, in the order in which they were added. -/
  handlers : List NumberedHandler
  /-- The least level that is written; 0 if none is set. -/
  level : Int
  /-- Whether records are handed on to loggers outside the hierarchy. -/
  propagates : Bool
  /-- The handlers that were ever made are those below this number. -/
  nextHandler : Nat
deriving DecidableEq

namespace LogSetup

/-- What can happen to the logger. Which stream standard error is may change between two events. -/
inductive Event where
  | configure (stderr : LogStream) (q : LogRequest)
  | reset
  | record (r : LogRecord)
deriving DecidableEq

/-- What an event leaves behind: the setup, the lines that were written, and the error if there was
one. -/
structure Effect where
  setup : LogSetup
  written : List (LogStream × String)
  error : Option UnknownLayout
deriving DecidableEq

def fresh : LogSetup :=
  ⟨none, [], 0, true, 0⟩

/-- Adds a handler, unless the logger carries it already. -/
def addHandler (h : NumberedHandler) (s : LogSetup) : LogSetup :=
  if s.handlers.any (·.number = h.number) then s else { s with handlers := s.handlers ++ [h] }

def removeHandler (h : NumberedHandler) (s : LogSetup) : LogSetup :=
  { s with handlers := s.handlers.eraseP (·.number = h.number) }

/-- Takes the installed handler away, if there is one. -/
def removeInstalled (s : LogSetup) : LogSetup :=
  match s.installed with
  | none => s
  | some h => s.removeHandler h

/-- Installs a new handler in place of the one that was installed last. An unknown layout is refused
before anything is changed. -/
def configure (stderr : LogStream) (q : LogRequest) (s : LogSetup) : Effect :=
  match q.layout? stderr with
  | none => ⟨s, [], some ⟨q.layout⟩⟩
  | some layout =>
    let h : NumberedHandler := ⟨s.nextHandler, layout, q.target stderr⟩
    let s := { s.removeInstalled with installed := some h, nextHandler := h.number + 1 }
    ⟨{ s.addHandler h with level := q.level.value, propagates := false }, [], none⟩

def reset (s : LogSetup) : LogSetup :=
  { s.removeInstalled with installed := none, level := 0, propagates := true }

/-- Whether a record passes the check of its level. -/
def admits (s : LogSetup) (r : LogRecord) : Bool :=
  Logger.admits ⟨none, s.level⟩ r

/-- What the handlers write for a record. -/
def write (here : LocalClock) (s : LogSetup) (r : LogRecord) : List (LogStream × String) :=
  if s.admits r then s.handlers.map fun h => (h.stream, r.text here h.layout ++ "\n") else []

def step (here : LocalClock) (s : LogSetup) : Event → Effect
  | .configure stderr q => s.configure stderr q
  | .reset => ⟨s.reset, [], none⟩
  | .record r => ⟨s, s.write here r, none⟩

/-- The setup after some events. -/
def after (here : LocalClock) (s : LogSetup) (es : List Event) : LogSetup :=
  es.foldl (fun s e => (s.step here e).setup) s

/-- All that is written in the course of some events. -/
def transcript (here : LocalClock) (s : LogSetup) : List Event → List (LogStream × String)
  | [] => []
  | e :: es => (s.step here e).written ++ (s.step here e).setup.transcript here es

end LogSetup

end CronSchedule
