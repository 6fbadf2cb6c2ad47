import CronSchedule.CommandLine.Commands

/-!
Running the program: the settings are loaded, a command does its work, and what it shows is written
as far as it can be.
-/

namespace CronSchedule

/-- How the program stops that cannot load its settings. -/
def SettingsError.stop (e : SettingsError) : CommandLine.Stop :=
  match e.exception? with
  | some e => .raised e
  | none => .failed (.configuration e.message "")

namespace CommandLine

/-- Loads the settings, with those of a file if one is named. -/
def loadSettings (w : Surroundings) (config : Option String) : Except Stop Settings :=
  let load (file : Option ConfigFile) : Except Stop Settings :=
    (Settings.load w.readers [] file w.environment Settings.standardGroup).mapError
      SettingsError.stop
  match config with
  | none => load none
  | some path =>
    let file := w.file path
    if file.target = .nothing then .error (.failed (.missingFile "Configuration file" file.path))
    else load file

/-- The settings, and what the journal says about them. -/
def prepared (w : Surroundings) (config : Option String) : Work Settings := do
  .log (Journal.ofSettings w.readers
    (Settings.sources [] (config.map w.file) w.environment Settings.standardGroup))
  let s ← .quietly (loadSettings w config)
  .log [.debug "cronlens.cli" ("Using " ++ s.display)]
  return s

/-- The logger as the program sets it up; the journal is shown if that is asked for. -/
def logSetup (stderr : LogStream) (verbose : Bool) : LogSetup :=
  (LogSetup.fresh.configure stderr
    ⟨.name (if verbose then "debug" else "warning"), "console", none⟩).setup

/-- How the program ended: with which code, and what was shown in which order. -/
structure Outcome where
  code : Nat
  shown : List Passage
  /-- Why a passage was refused, if one was. -/
  refused : Option Exception
deriving DecidableEq

namespace Outcome

/-- What went to the output. -/
def out (o : Outcome) : List Passage :=
  o.shown.filter Passage.isOutput

/-- What was told of a failure. -/
def complaints (o : Outcome) : List Passage :=
  o.shown.filter Passage.isComplaint

end Outcome

/-- Why a passage is refused after others, if it is. -/
def Surroundings.refuses? (w : Surroundings) (before : List Passage) : Passage → Option Exception
  | .record _ => none
  | p => w.refusal? before p

/-- Writes passages after others, up to the first one that is refused. -/
def Surroundings.write (w : Surroundings) (before : List Passage) :
    List Passage → List Passage × Option Exception
  | [] => (before, none)
  | p :: ps =>
    match w.refuses? before p with
    | some e => (before, some e)
    | none => w.write (before ++ [p]) ps

/-- Tells of a stop after what was shown; where that is refused too, nothing is left to tell. -/
def Stop.outcome (w : Surroundings) (setup : LogSetup) (before : List Passage)
    (refused : Option Exception) (stop : Stop) : Outcome :=
  match w.write before (stop.told.filter (·.passes setup)) with
  | (shown, none) => ⟨stop.code.value, shown, refused⟩
  | (shown, some e) => ⟨ExitCode.general.value, shown, refused.or e⟩

/-- Does some work. A passage that is refused ends it like any error that was not foreseen. -/
def Work.outcome (w : Surroundings) (setup : LogSetup) (work : Work Unit) : Outcome :=
  match w.write [] (work.shown.filter (·.passes setup)), work.result with
  | (shown, some e), _ => (Stop.raised e).outcome w setup shown e
  | (shown, none), .ok () => ⟨0, shown, none⟩
  | (shown, none), .error stop => stop.outcome w setup shown none

/-- Runs the program. -/
def run (w : Surroundings) (i : Invocation) : Outcome :=
  (prepared w i.config >>= i.command.work w).outcome w (logSetup w.stderr i.verbose)

end CommandLine

end CronSchedule
