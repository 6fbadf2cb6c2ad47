import CronSchedule.CommandLine.Failure
import CronSchedule.Log.Journal
import CronSchedule.Log.Setup

/-!
What a command shows, passage by passage. How a sheet is laid out and what a colour looks like is up
to the library that prints them, which is not described here.
-/

namespace CronSchedule.CommandLine

/-- A piece of a text, in a style if it has one. Nothing in a protected piece is taken for a style. -/
structure Span where
  text : String
  style : Option String
  isProtected : Bool
deriving DecidableEq

/-- A column of a table. -/
structure Column where
  title : String
  style : Option String
  isRight : Bool
deriving DecidableEq

/-- Something that is laid out for its reader. -/
inductive Sheet where
  | line (spans : List Span)
  | table (columns : List Column) (rows : List (List Span))
  | panel (title : String) (lines : List (List Span))
deriving DecidableEq

inductive Passage where
  /-- A line of the output, as it is. -/
  | echo (text : String)
  /-- A sheet of the output. -/
  | page (sheet : Sheet)
  /-- A coloured line among the errors. -/
  | complaint (colour text : String)
  | record (j : JournalLine)
deriving DecidableEq

namespace Passage

/-- Whether the passage goes to the output. -/
def isOutput : Passage → Bool
  | echo _ | page _ => true
  | complaint .. | record _ => false

def isComplaint : Passage → Bool
  | complaint .. => true
  | echo _ | page _ | record _ => false

/-- Whether the passage gets past the logger, as lines of the journal have to. -/
def passes (s : LogSetup) : Passage → Bool
  | record j => Logger.admitsFrom ⟨none, s.level⟩ j.logger j.level.value
  | echo _ | page _ | complaint .. => true

end Passage

/-- What is told of a failure. -/
def Failure.complaints (f : Failure) : List Passage :=
  .complaint "red" ("Error: " ++ f.message) ::
    f.issues.map (fun issue => .complaint "red" ("  - " ++ issue)) ++
    if f.hint = "" then [] else [.complaint "yellow" ("Hint: " ++ f.hint)]

end CronSchedule.CommandLine
