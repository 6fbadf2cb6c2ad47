import CronSchedule.Calendar.Clock
import CronSchedule.CommandLine.Work
import CronSchedule.Datum.Json
import CronSchedule.Description.Sentence
import CronSchedule.Preset

/-!
What commands show: reports, firings and presets, for a reader or as JSON.
-/

namespace CronSchedule

def Issue.datum (l : Locale) (i : Issue) : Datum :=
  .record [("kind", .text i.kind),
    ("field", (i.slot?.map fun s => Datum.text s.name).getD .null),
    ("token", .text i.token), ("message", .text (i.say l))]

def Warning.datum (l : Locale) (w : Warning) : Datum :=
  .record [("kind", .text w.kind), ("message", .text (w.say l))]

/-- The members of a record that shows a report. -/
def Report.members (l : Locale) (r : Report) : Members :=
  [("valid", .bool r.isValid), ("errors", .list (r.issues.map (·.datum l))),
    ("warnings", .list (r.warnings.map (·.datum l)))]

def Preset.datum (p : Preset) : Datum :=
  .record [("key", .text p.key), ("name", .text p.name), ("expression", .text p.source),
    ("description", .text p.description), ("category", .text p.category.name)]

namespace CommandLine

namespace Span

def plain (text : String) : Span :=
  ⟨text, none, false⟩

/-- A piece that only holds what its author put there. -/
def styled (style text : String) : Span :=
  ⟨text, style, false⟩

/-- A piece that may hold anything. -/
def guarded (style : Option String) (text : String) : Span :=
  ⟨text, style, true⟩

end Span

namespace Column

def plain (title : String) : Column :=
  ⟨title, none, false⟩

def styled (style title : String) : Column :=
  ⟨title, style, false⟩

end Column

namespace Work

/-- A line that is laid out for its reader. -/
def line (spans : List Span) : Work Unit :=
  display (.page (.line spans))

def table (columns : List Column) (rows : List (List Span)) : Work Unit :=
  display (.page (.table columns rows))

/-- A datum as a page of JSON. -/
def json (d : Datum) : Work Unit :=
  display (.echo d.page)

end Work

/-- A message, for which the locale is asked for. -/
def say (m : Message) (tag : String) : Work String := do
  .log (Journal.ofLocale tag)
  return m.say (Locale.ofTag tag) []

/-- A table of all issues, if there are any. -/
def showIssues (l : Locale) (is : List Issue) : Work Unit :=
  if is = [] then pure ()
  else
    .table [.styled "cyan" "Field", .plain "Token", .styled "red" "Message"]
      (is.map fun i =>
        [.plain ((i.slot?.map Slot.name).getD "-"), .guarded none i.token, .guarded none (i.say l)])

/-- The issues, and a line for each warning. -/
def showReport (l : Locale) (r : Report) : Work Unit := do
  showIssues l r.issues
  .displayAll (r.warnings.map fun w =>
    .page (.line [.styled "yellow" "Warning:", .plain " ", .guarded none (w.say l)]))

/-- The report on an expression that is valid. -/
def showValid (tag normalized : String) (r : Report) : Work Unit := do
  .line [.styled "green" "✓ Valid expression:", .plain " ", .guarded none normalized]
  showReport (Locale.ofTag tag) r

/-- The report on one that is not. -/
def showInvalid (tag : String) (r : Report) : Work Unit := do
  let heading ← say .invalidExpression tag
  .line [.styled "red" "✗ ", .guarded "red" heading]
  showReport (Locale.ofTag tag) r

/-- A table of firings, numbered from 1; each name of a weekday asks for the locale again. -/
def showFirings (tag : String) (hours : Int) (stamps : List Stamp) : Work Unit := do
  .log (stamps.flatMap fun _ => Journal.ofLocale tag)
  .table [⟨"#", "dim", true⟩, .styled "cyan" "Time", .plain "Weekday"]
    (stamps.zipIdx.map fun (s, i) =>
      [.plain (Text.ofNat (i + 1)), .plain (s.display hours),
        .plain ((Locale.ofTag tag).weekday s.clock.civil.date.weekday)])

/-- A table of firings, or a line that says that there are none. -/
def showFiringsIfAny (tag : String) (hours : Int) (stamps : List Stamp) : Work Unit := do
  if stamps = [] then
    let message ← say .noNextRun tag
    .line [.guarded "yellow" message]
  else showFirings tag hours stamps

/-- A table of presets. -/
def showPresets (ps : List Preset) : Work Unit :=
  .table [.styled "cyan" "Key", .styled "green" "Expression", .plain "Name", .styled "dim" "Category"]
    (ps.map fun p => [.plain p.key, .plain p.source, .plain p.name, .plain p.category.name])

def firingsDatum (stamps : List Stamp) : Datum :=
  .list (stamps.map fun s => .text s.isoText)

end CommandLine

end CronSchedule
