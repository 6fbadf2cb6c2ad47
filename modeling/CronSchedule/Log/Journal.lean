import CronSchedule.Log.Record
import CronSchedule.Occurrence.Search
import CronSchedule.Settings.Source

/-!
What the library reports of its own work, for those who look for faults in it.
-/

namespace CronSchedule

/-- A line of the journal: the logger that it goes to, and how grave it is. -/
structure JournalLine where
  logger : String
  level : LogLevel
  message : String
  error : Option Exception
deriving DecidableEq

namespace JournalLine

/-- A line that only those are shown who look for faults. -/
def debug (logger message : String) : JournalLine :=
  ⟨logger, .debug, message, none⟩

/-- The record of a line. -/
def record (created : Moment) (j : JournalLine) : LogRecord :=
  ⟨j.logger, j.level.value, j.message, created, j.error⟩

end JournalLine

namespace Journal

/-- A locale was asked for. -/
def ofLocale (tag : Option String) : List JournalLine :=
  (Locale.unsupported? tag).toList.map fun tag =>
    .debug "cronlens.i18n" ("Unsupported locale " ++ Text.quoted tag ++ ", falling back to en")

/-- The fields that are read before a number stops the reading. -/
def readFields : List (Slot × String) → List Field
  | [] => []
  | (slot, token) :: rest =>
    match Field.read slot token with
    | .error _ => []
    | .ok f => f :: readFields rest

/-- An issue looks at the locale three times: for its reason, for the label and for the message. -/
def ofIssue (tag : Option String) : List JournalLine :=
  ofLocale tag ++ ofLocale tag ++ ofLocale tag

/-- An expression was read, or at least begun. -/
def ofParse (source : String) (mode : Mode) (tag : Option String) : List JournalLine :=
  let tell := JournalLine.debug "cronlens.scheduling.cron"
  let slots := Slot.all.zip (Expression.slotTokens mode (Expression.tokens source))
  match parse source mode with
  | .ok (.wrongCount expected actual _) =>
    ofLocale tag ++ [tell ("Rejected " ++ Text.quoted source ++ ": " ++ Text.ofNat actual ++
      " fields, expected " ++ Text.ofNat expected)]
  | .ok (.expression e) =>
    e.issues.flatMap (fun _ => ofIssue tag) ++ e.warnings.flatMap (fun _ => ofLocale tag) ++
      [tell ("Parsed " ++ Text.quoted source ++ ": " ++ Text.ofNat e.issues.length ++
        " error(s), " ++ Text.ofNat e.warnings.length ++ " warning(s)")]
  | .error _ =>
    ((readFields slots).filter fun f => f.fault?.isSome).flatMap fun _ => ofIssue tag

/-- A search came to an end of its own. -/
def ofFinish (s : Search) (why : Finish) : JournalLine :=
  let source := Text.quoted s.expression.source
  let message := match why with
    | .gaveUp =>
      "No match for " ++ source ++ " within " ++ ((s.window.map (·.text)).getD "") ++ " of " ++
        s.reference.isoText ++ ", giving up"
    | .budgetSpent found =>
      "Search budget of " ++ Text.ofInt s.budget ++ " steps exhausted for " ++ source ++
        " after " ++ Text.ofNat found ++ " match(es)"
  .debug "cronlens.scheduling.search" message

/-- A search for a number of firings was made. -/
def ofSearch (s : Search) (count : Int) : List JournalLine :=
  match s.harvest count with
  | .ok ⟨_, .finished why⟩ => [ofFinish s why]
  | _ => []

/-- Some members were found in a source, of which those that are no settings are left out. -/
def ofMembers (source : Source) (ms : Members) : List JournalLine :=
  (Source.ignored ms).map fun key =>
    .debug "cronlens.infrastructure.config"
      ("Ignoring unknown config key " ++ key.quoted ++ " from " ++ source.name)

/-- Sources were read in order, up to the first that could not be. -/
def ofSources (r : Readers) : List Source → List JournalLine
  | [] => []
  | source :: rest =>
    match source.members r with
    | .error _ => []
    | .ok ms => ofMembers source ms ++ ofSources r rest

/-- Settings were loaded from some sources. -/
def ofSettings (r : Readers) (sources : List Source) : List JournalLine :=
  ofSources r (Source.ordered sources) ++
    match Settings.ofSources r sources with
    | .ok s => [.debug "cronlens.infrastructure.config" ("Loaded configuration: " ++ s.display)]
    | .error _ => []

end Journal

end CronSchedule
