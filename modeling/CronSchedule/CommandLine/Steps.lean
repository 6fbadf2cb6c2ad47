import CronSchedule.Calendar.IsoText
import CronSchedule.CommandLine.Command
import CronSchedule.CommandLine.Display
import CronSchedule.Settings.Source

/-!
The steps that commands are made of. What the program is linked with and what it finds around it is
given: the readers of files, the rules of zones, and whether a passage can be written.
-/

namespace CronSchedule

/-- Why there is no search in the zone of a key. -/
def ZoneFailure.stop (key : String) : ZoneFailure → CommandLine.Stop
  | unknown =>
    .failed (.usage ("Unknown timezone: " ++ key) "Use an IANA name such as Europe/Berlin.")
  | other e => .raised e

namespace CommandLine

/-- What the program finds around it. -/
structure Surroundings where
  environment : Environment
  readers : Readers
  /-- The file at a path. -/
  file : String → ConfigFile
  /-- The rules of a zone, by its key. -/
  zones : String → Except ZoneFailure ZoneRules
  clock : Clock
  stderr : LogStream
  /-- Why a passage cannot be written after those that were, if it cannot. Lines of the journal
  always can. -/
  refusal? : List Passage → Passage → Option Exception

/-- The forms of output. -/
inductive Format where
  | console
  | json
deriving DecidableEq

def Format.read (name : String) : Except Failure Format :=
  if name = "console" then .ok console
  else if name = "json" then .ok json
  else .error (.usage ("Unknown output format: " ++ name) "Use console or json.")

def formatOf (name : String) : Work Format :=
  .quietly ((Format.read name).mapError .failed)

/-! ## Expressions -/

/-- The tag that is asked for, or else the one that is set. -/
def tagOf (asked : Option String) (s : Settings) : String :=
  match asked with
  | none => s.locale
  | some tag => if tag = "" then s.locale else tag

namespace Subject

def tagIn (subject : Subject) (s : Settings) : String :=
  tagOf subject.locale s

def localeIn (subject : Subject) (s : Settings) : Locale :=
  .ofTag (subject.tagIn s)

def modeIn (subject : Subject) (s : Settings) : Mode :=
  .ofSeconds (subject.seconds || s.includeSeconds)

end Subject

def parsed (source : String) (mode : Mode) (tag : String) : Work Parsed := do
  .log (Journal.ofParse source mode tag)
  .quietly ((parse source mode).mapError fun e => .raised e.exception)

/-- The expression of a text, which has to be valid. -/
def validExpression (source : String) (mode : Mode) (tag : String) : Work Expression := do
  let p ← parsed source mode tag
  match p.valid? with
  | some e => return e
  | none =>
    let heading ← say .invalidExpression tag
    .stop (.failed (.expression heading (p.report.issues.map (·.say (Locale.ofTag tag))) ""))

/-- The description of an expression, for which the locale is asked for once. -/
def sentenceOf (e : Expression) (tag : String) : Work String := do
  .log (Journal.ofLocale tag)
  .quietly ((e.describe (Locale.ofTag tag)).mapError fun r => .raised r.exception)

/-! ## Times -/

/-- The key that is asked for, or else the one that is set. -/
def zoneKey (asked : Option String) (s : Settings) : Option String :=
  match asked with
  | none => s.timezone
  | some key => if key = "" then s.timezone else key

/-- The rules of the zone of a key; an empty one stands for none. -/
def zoneOf (w : Surroundings) (key : Option String) : Except Stop (Option ZoneRules) :=
  match key with
  | none => .ok none
  | some key =>
    if key = "" then .ok none else (some <$> w.zones key).mapError (ZoneFailure.stop key)

/-- The time that a search starts from, and the rules of its clock if they are known. -/
structure Reference where
  stamp : Stamp
  rules : Option ZoneRules

namespace Reference

/-- A moment of the reference's clock. -/
def stampAt (r : Reference) (m : Moment) : Stamp :=
  ⟨m, r.rules.map (·.atClock m)⟩

/-- A time on the clock of a zone, unless it is off the time line. -/
def ofStamp? (stamp : Option Stamp) (rules : Option ZoneRules) : Except Stop Reference :=
  match stamp with
  | some stamp => .ok ⟨stamp, rules⟩
  | none => .error (.raised SearchError.offCalendar.exception)

/-- The present, on the clock of a zone or of the machine. -/
def present (zone : Option ZoneRules) (clock : Clock) : Except Stop Reference :=
  ofStamp? (clock.now? zone) zone

/-- The time that a text stands for, on the clock of the zone if there is one. -/
def ofText (text : String) (zone : Option ZoneRules) : Except Stop Reference :=
  match Stamp.ofIso? text with
  | none =>
    .error (.failed
      (.usage ("Invalid --from value: " ++ text) "Use ISO 8601, e.g. 2024-01-31T09:00."))
  | some stamp =>
    match zone with
    | none => .ok ⟨stamp, stamp.zone.map .fixed⟩
    | some rules => ofStamp? (stamp.inZone? rules) rules

/-- The time that is given, or else the present. -/
def ofStart (start : Option String) (zone : Option ZoneRules) (clock : Clock) :
    Except Stop Reference :=
  match start with
  | none => present zone clock
  | some text => ofText text zone

end Reference

/-- The next firings after a reference. -/
def firings (e : Expression) (r : Reference) (count budget : Int) (s : Settings) :
    Work (List Stamp) := do
  let window ← .quietly (s.window.mapError fun f => .raised f.exception)
  let search : Search := ⟨e, r.stamp, budget, window⟩
  .log (Journal.ofSearch search count)
  let ms ← .quietly ((search.occurrences count).mapError fun f => .raised f.exception)
  return ms.map r.stampAt

end CommandLine

end CronSchedule
