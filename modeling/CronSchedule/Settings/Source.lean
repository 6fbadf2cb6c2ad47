import CronSchedule.Settings.ConfigFile
import CronSchedule.Settings.Definition
import CronSchedule.Settings.Environment

/-!
Where settings come from, and how they are put together: of two sources that define a setting the
one with the higher priority wins, of two with the same the later one.
-/

namespace CronSchedule

inductive Source where
  | fixed (priority : Int) (members : Members)
  | file (f : ConfigFile)
  | environment (env : Environment) (group : String)

/-- Why no settings could be loaded. -/
inductive SettingsError where
  | file (e : FileError)
  | hoursTooLarge
  | invalid (faults : List SettingFault)
deriving DecidableEq

namespace SettingsError

def message : SettingsError → String
  | file e => e.message
  | hoursTooLarge => "int too large to convert to float"
  | invalid faults =>
    "Configuration validation failed: " ++ ", ".intercalate (faults.map (·.message))

/-- The error as one that no caller is told to expect, if it is one. -/
def exception? : SettingsError → Option Exception
  | file e => e.exception?
  | hoursTooLarge => some ⟨"OverflowError", hoursTooLarge.message⟩
  | invalid _ => none

end SettingsError

namespace Source

def priority : Source → Int
  | fixed p _ => p
  | file _ => 50
  | environment .. => 100

/-- What a source is called in the journal. -/
def name : Source → String
  | fixed .. => "ConfigSource"
  | file _ => "FileConfigSource"
  | environment .. => "EnvConfigSource"

def members (r : Readers) : Source → Except FileError Members
  | fixed _ ms => .ok ms
  | file f => f.members r true
  | environment env group => .ok (env.members group)

/-- The keys of members that are no settings. -/
def ignored (ms : Members) : List Key :=
  (ms.map (·.1)).filter fun key => (Setting.ofKey? key).isNone

/-- The sources from the lowest to the highest priority. -/
def ordered (sources : List Source) : List Source :=
  sources.mergeSort fun a b => a.priority ≤ b.priority

end Source

namespace Definitions

/-- Adds the settings among some members; each replaces an earlier definition. -/
def add (ds : Definitions) (ms : Members) : Definitions :=
  ms.foldl (fun ds (key, d) =>
    match Setting.ofKey? key with
    | some s => Association.set s d ds
    | none => ds) ds

/-- The definitions of all sources together. -/
def ofSources (r : Readers) (sources : List Source) : Except FileError Definitions :=
  (Source.ordered sources).foldlM (fun ds source => ds.add <$> source.members r) []

end Definitions

namespace Settings

/-- The settings that some definitions make, if nothing is wrong with them. -/
def ofDefinitions (ds : Definitions) : Except SettingsError Settings :=
  match ds.withFloatHours? with
  | none => .error .hoursTooLarge
  | some ds => if ds.faults = [] then .ok ds.settings else .error (.invalid ds.faults)

/-- Loads the settings from some sources. -/
def ofSources (r : Readers) (sources : List Source) : Except SettingsError Settings :=
  match Definitions.ofSources r sources with
  | .error e => .error (.file e)
  | .ok ds => ofDefinitions ds

/-- The group of variables that settings are read from. -/
def standardGroup : String := "CRONLENS"

/-- The sources of settings: further ones, a file if there is one, and the environment. -/
def sources (extra : List Source) (file : Option ConfigFile) (env : Environment) (group : String) :
    List Source :=
  extra ++ (file.map Source.file).toList ++ [.environment env group]

/-- Loads the settings from further sources, a file if there is one, and the environment. -/
def load (r : Readers) (extra : List Source) (file : Option ConfigFile) (env : Environment)
    (group : String) : Except SettingsError Settings :=
  ofSources r (sources extra file env group)

end Settings

end CronSchedule
