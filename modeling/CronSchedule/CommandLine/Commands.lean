import CronSchedule.CommandLine.Steps
import CronSchedule.Draft.Setter

/-!
What each command does.
-/

namespace CronSchedule.CommandLine

/-- What is shown of an expression that was to be validated. -/
def showVerdict (expression tag : String) (p : Parsed) : Format → Work Unit
  | .json =>
    .json (.record (("expression", .text expression) ::
      ("normalized", (p.expression?.map fun e => Datum.text e.normalized).getD .null) ::
      p.report.members (Locale.ofTag tag)))
  | .console =>
    if p.report.isValid then
      showValid tag ((p.expression?.map (·.normalized)).getD "") p.report
    else showInvalid tag p.report

def runValidate (subject : Subject) (format : String) (s : Settings) : Work Unit := do
  let format ← formatOf format
  let p ← parsed subject.expression (subject.modeIn s) (subject.tagIn s)
  showVerdict subject.expression (subject.tagIn s) p format
  if p.report.isValid then pure () else .stop (.exit .validationFailed)

/-- The firings after a reference, for a reader or as JSON. -/
def showNext (e : Expression) (tag : String) (r : Reference) (runs : List Stamp) (s : Settings) :
    Format → Work Unit
  | .json =>
    .json (.record [("expression", .text e.normalized), ("reference", .text r.stamp.isoText),
      ("occurrences", firingsDatum runs)])
  | .console => showFiringsIfAny tag s.hourFormat runs

/-- The end of a search, which knows its reference. -/
def runFrom (e : Expression) (tag : String) (format : Format) (count budget : Int) (s : Settings)
    (r : Reference) : Work Unit := do
  let runs ← firings e r count budget s
  showNext e tag r runs s format

def runNext (w : Surroundings) (subject : Subject) (o : NextOptions) (format : String)
    (s : Settings) : Work Unit := do
  let format ← formatOf format
  let tag := subject.tagIn s
  let budget := o.maxIterations.getD s.maxIterations
  if budget < 1 then .stop (.failed (.usage "--max-iterations must be at least 1" ""))
  else
    let e ← validExpression subject.expression (subject.modeIn s) tag
    let zone ← .quietly (zoneOf w (zoneKey o.timezone s))
    let reference ← .quietly (Reference.ofStart o.start zone w.clock)
    runFrom e tag format (o.count.getD s.defaultCount) budget s reference

def runDescribe (subject : Subject) (s : Settings) : Work Unit := do
  let tag := subject.tagIn s
  let e ← validExpression subject.expression (subject.modeIn s) tag
  let sentence ← sentenceOf e tag
  .display (.echo sentence)

/-- What is shown of an expression that cannot be explained. -/
def showUnexplained (expression tag : String) (p : Parsed) : Format → Work Unit
  | .json =>
    .json (.record (("expression", .text expression) :: p.report.members (Locale.ofTag tag)))
  | .console => showInvalid tag p.report

/-- What is shown of one that can. -/
def showExplained (e : Expression) (tag sentence : String) (runs : List Stamp) (s : Settings) :
    Format → Work Unit
  | .json =>
    .json (.record (("expression", .text e.normalized) :: ("description", .text sentence) ::
      (e.report.members (Locale.ofTag tag) ++ [(.text "occurrences", firingsDatum runs)])))
  | .console => do
    .display (.page (.panel "cronlens"
      [[.guarded "bold" e.normalized], [.guarded none sentence]]))
    showReport (Locale.ofTag tag) e.report
    showFiringsIfAny tag s.hourFormat runs

/-- The explanation of an expression that is valid. -/
def explain (w : Surroundings) (e : Expression) (tag : String) (format : Format) (count : Int)
    (s : Settings) : Work Unit := do
  let zone ← .quietly (zoneOf w s.timezone)
  let reference ← .quietly (Reference.present zone w.clock)
  let runs ← firings e reference count s.maxIterations s
  let sentence ← sentenceOf e tag
  showExplained e tag sentence runs s format

def runExplain (w : Surroundings) (subject : Subject) (count : Option Int) (format : String)
    (s : Settings) : Work Unit := do
  let format ← formatOf format
  let tag := subject.tagIn s
  let p ← parsed subject.expression (subject.modeIn s) tag
  match p.valid? with
  | some e => explain w e tag format (count.getD s.defaultCount) s
  | none =>
    showUnexplained subject.expression tag p format
    .stop (.exit .validationFailed)

/-- The presets of the category of a name, or all of them. -/
def presetsOf (category : Option String) : Except Failure (List Preset) :=
  match category with
  | none => .ok (Preset.listed none)
  | some name =>
    match Category.ofName? name with
    | some c => .ok (Preset.listed c)
    | none =>
      .error (.usage ("Unknown category: " ++ name)
        ("Choose one of: " ++ ", ".intercalate (Category.all.map (·.name))))

def runPresets (category : Option String) (format : String) : Work Unit := do
  let format ← formatOf format
  let presets ← .quietly ((presetsOf category).mapError .failed)
  match format with
  | .json => .json (.list (presets.map Preset.datum))
  | .console => showPresets presets

def runBuild (tokens : List (Slot × String)) (command : String) (locale : Option String)
    (s : Settings) : Work Unit := do
  let tag := tagOf locale s
  let draft := tokens.foldl (fun d t => d.set (.field t.1 t.2)) Draft.new
  let e ← validExpression draft.text draft.mode tag
  .display (.echo (e.crontabLine command))
  let sentence ← sentenceOf e tag
  .line [.guarded "dim" sentence]
  if e.mode = .seconds then
    let note ← say .crontabSeconds tag
    .line [.guarded "yellow" note]

def Command.work (w : Surroundings) (c : Command) (s : Settings) : Work Unit :=
  match c with
  | validate subject format => runValidate subject format s
  | next subject o format => runNext w subject o format s
  | describe subject => runDescribe subject s
  | explain subject count format => runExplain w subject count format s
  | presets category format => runPresets category format
  | build tokens command locale => runBuild tokens command locale s

end CronSchedule.CommandLine
