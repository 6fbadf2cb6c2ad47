import CronSchedule.Host.Program
import CronSchedule.Host.Yaml
import CronSchedule.Host.Zones
import Std.Time.Zoned

/-!
The program: what its commands need of the world is read here, and what they show is written.
-/

namespace CronSchedule.Host

open CommandLine

/-- The variables in a block of definitions that each end in a zero byte. -/
def environmentOf (block : String) : Environment :=
  (Text.pieces '\x00' block.toList).filterMap fun definition =>
    match definition.dropWhile (· ≠ '=') with
    | [] => none
    | _ :: value => some (String.ofList (definition.takeWhile (· ≠ '=')), String.ofList value)

/-- What there is at a path. -/
def readTarget (path : String) : IO PathTarget := do
  try return .file (← IO.FS.readFile path)
  catch e =>
    match e with
    | .noFileOrDirectory .. => return .nothing
    | .inappropriateType .. => return .directory
    | .invalidArgument .. => return .unnamable
    | e => return .broken ⟨"OSError", toString e⟩

/-- How many microseconds the clock of the machine is ahead of universal time; a machine that does not
tell its own time keeps universal time. -/
def readOffset (now : Std.Time.Timestamp) : IO Int := do
  try
    let rules ← Std.Time.Database.defaultGetLocalZoneRules
    return (rules.timezoneAt now).offset.second.val * microsecondsPerSecond
  catch _ => return 0

/-- A moment of universal time on the clock of the machine, which is not set while the program runs. -/
def localMoment (offset : Int) (m : Moment) : Moment :=
  (m.shift? offset).getD m

def readers : Readers where
  yaml := Yaml.read
  jsonDepth := 980
  jsonHalf _ := '\uFFFD'

/-- Writes a passage to where it goes; the text is in an encoding that has all characters. -/
def print (here : LocalClock) (now : Moment) (setup : LogSetup) : Passage → IO Unit
  | .record j => (setup.write here (j.record now)).forM fun (_, text) => IO.eprint text
  | .complaint colour text => IO.eprint (shownPassage (.complaint colour text))
  | p => IO.print (shownPassage p)

/-- What is told to those whose arguments make no command. -/
def usageText : String :=
  helpText ++ "\nError: the arguments make no command.\n"

end CronSchedule.Host

open CronSchedule CronSchedule.CommandLine CronSchedule.Host in
def main (args : List String) : IO UInt32 := do
  let environment := match ← readTarget "/proc/self/environ" with
    | .file block => environmentOf block
    | _ => []
  let target ← match configPath? args with
    | some path => readTarget path
    | none => pure .nothing
  let timestamp ← Std.Time.Timestamp.now
  let offset ← readOffset timestamp
  let now := (Moment.epoch.shift? (timestamp.toNanosecondsSinceUnixEpoch.val / 1000)).getD .epoch
  let surroundings : Surroundings := {
    environment, readers, zones
    file := fun path => .ofPath path target
    clock := ⟨now, localMoment offset now⟩
    stderr := ⟨2, ← (← IO.getStderr).isTty⟩
    refusal? := fun _ _ => none }
  match answer surroundings args with
  | .usage =>
    IO.eprint usageText
    return ExitCode.usage.value.toUInt32
  | .finished verbose o =>
    o.shown.forM (print (localMoment offset) now (logSetup surroundings.stderr verbose))
    return o.code.toUInt32
