import CronSchedule.CommandLine.Command
import CronSchedule.Expression.Rejection
import CronSchedule.Host.Arguments
import CronSchedule.Host.IntegerText

/-!
The options of the commands, and reading commands from arguments.
-/

namespace CronSchedule.Host

open CommandLine (Command Subject)

inductive CommandName where
  | validate
  | next
  | describe
  | explain
  | presets
  | build
deriving DecidableEq

namespace CommandName

def all : List CommandName :=
  [validate, next, describe, explain, presets, build]

def text : CommandName → String
  | validate => "validate"
  | next => "next"
  | describe => "describe"
  | explain => "explain"
  | presets => "presets"
  | build => "build"

def ofText? (text : String) : Option CommandName :=
  all.find? (·.text = text)

end CommandName

/-! ## Options -/

def helpSpec : OptionSpec := ⟨"--help", none, false⟩

def configSpec : OptionSpec := ⟨"--config", some 'c', true⟩

def verboseSpec : OptionSpec := ⟨"--verbose", some 'v', false⟩

def secondsSpec : OptionSpec := ⟨"--seconds", some 's', false⟩

def localeSpec : OptionSpec := ⟨"--locale", some 'l', true⟩

def formatSpec : OptionSpec := ⟨"--format", some 'f', true⟩

def countSpec : OptionSpec := ⟨"--count", some 'n', true⟩

def fromSpec : OptionSpec := ⟨"--from", none, true⟩

def timezoneSpec : OptionSpec := ⟨"--timezone", some 'z', true⟩

def maxIterationsSpec : OptionSpec := ⟨"--max-iterations", none, true⟩

def categorySpec : OptionSpec := ⟨"--category", none, true⟩

def commandSpec : OptionSpec := ⟨"--command", none, true⟩

/-- The option that gives the token of a slot. -/
def slotOption : Slot → String
  | .second => "--second"
  | .minute => "--minute"
  | .hour => "--hour"
  | .dayOfMonth => "--day"
  | .month => "--month"
  | .dayOfWeek => "--weekday"
  | .year => "--year"

/-- The options that stand before the name of a command. -/
def sharedSpecs : List OptionSpec :=
  [configSpec, verboseSpec, helpSpec]

def CommandName.specs : CommandName → List OptionSpec
  | validate => [secondsSpec, localeSpec, formatSpec, helpSpec]
  | next =>
    [countSpec, secondsSpec, fromSpec, timezoneSpec, maxIterationsSpec, localeSpec, formatSpec,
      helpSpec]
  | describe => [secondsSpec, localeSpec, helpSpec]
  | explain => [countSpec, secondsSpec, localeSpec, formatSpec, helpSpec]
  | presets => [categorySpec, formatSpec, helpSpec]
  | build =>
    (Slot.all.map fun s => ⟨slotOption s, none, true⟩) ++ [commandSpec, localeSpec, helpSpec]

/-! ## Commands -/

namespace Arguments

/-- The value of an option that has to be an integer; `none` if it is not one. -/
def int? (a : Arguments) (name : String) : Option (Option Int) :=
  match a.value? name with
  | none => some none
  | some s => (IntegerText.read? s).map some

/-- The expression and what goes with it, if there is exactly one word. -/
def subject? (a : Arguments) : Option Subject :=
  match a.words with
  | [expression] => some ⟨expression, a.has "--seconds", a.value? "--locale"⟩
  | _ => none

def format (a : Arguments) : String :=
  (a.value? "--format").getD "console"

/-- The command of a name, if these are arguments for it. -/
def command? (a : Arguments) : CommandName → Option Command
  | .validate => a.subject?.map (.validate · a.format)
  | .next => do
    let subject ← a.subject?
    let count ← a.int? "--count"
    let maxIterations ← a.int? "--max-iterations"
    return .next subject ⟨count, a.value? "--from", a.value? "--timezone", maxIterations⟩ a.format
  | .describe => a.subject?.map .describe
  | .explain => do
    let subject ← a.subject?
    let count ← a.int? "--count"
    return .explain subject count a.format
  | .presets => if a.words = [] then some (.presets (a.value? "--category") a.format) else none
  | .build =>
    if a.words = [] then
      let tokens := Slot.all.filterMap fun s => (a.value? (slotOption s)).map fun t => (s, t)
      some (.build tokens ((a.value? "--command").getD defaultCommand) (a.value? "--locale"))
    else none

end Arguments

/-! ## Requests -/

/-- What the arguments of a command ask for. -/
inductive CommandRequest where
  | help
  | command (c : Command)
deriving DecidableEq

/-- Reads the arguments of a command; `none` if they do not fit it. -/
def CommandRequest.read? (name : CommandName) (args : List String) : Option CommandRequest := do
  let a ← Arguments.read? name.specs true args
  if a.has "--help" then return help else (a.command? name).map command

/-- What all arguments ask for. Those of a command are read once the settings are loaded. -/
inductive Request where
  | help
  | command (config : Option String) (verbose : Bool) (name : CommandName) (args : List String)
deriving DecidableEq

/-- Reads the arguments up to the name of a command; `none` if they are of no use. -/
def Request.read? (args : List String) : Option Request := do
  let a ← Arguments.read? sharedSpecs false args
  if args = [] ∨ a.has "--help" then return help
  else
    match a.words with
    | [] => none
    | word :: rest =>
      (CommandName.ofText? word).map
        (command (a.value? "--config") (a.has "--verbose") · rest)

/-- The path of the file with settings that the arguments name. -/
def configPath? (args : List String) : Option String :=
  match Request.read? args with
  | some (.command config _ _ _) => config
  | _ => none

/-- What is told to those who ask for help. -/
def helpText : String :=
  "Usage: cronlens [--config FILE] [--verbose] COMMAND\nCommands: " ++
    ", ".intercalate (CommandName.all.map (·.text))

end CronSchedule.Host
