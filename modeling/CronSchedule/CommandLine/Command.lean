import CronSchedule.Slot

/-!
The commands of the program, with their arguments as they have been read.
-/

namespace CronSchedule.CommandLine

/-- What most commands are about. -/
structure Subject where
  expression : String
  seconds : Bool
  locale : Option String
deriving DecidableEq

structure NextOptions where
  count : Option Int
  start : Option String
  timezone : Option String
  maxIterations : Option Int
deriving DecidableEq

inductive Command where
  | validate (subject : Subject) (format : String)
  | next (subject : Subject) (options : NextOptions) (format : String)
  | describe (subject : Subject)
  | explain (subject : Subject) (count : Option Int) (format : String)
  | presets (category : Option String) (format : String)
  /-- The tokens stand in the order of their slots. -/
  | build (tokens : List (Slot × String)) (command : String) (locale : Option String)
deriving DecidableEq

/-- A command, and what is asked of all commands: the path of a file with settings, and whether the
journal is to be shown. -/
structure Invocation where
  config : Option String
  verbose : Bool
  command : Command
deriving DecidableEq

end CronSchedule.CommandLine
