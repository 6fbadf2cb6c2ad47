import CronSchedule.Exception
import CronSchedule.Occurrence.Search

/-!
How a command fails: the code that it exits with, and what it tells its user.
-/

namespace CronSchedule

/-! ## Errors that no command foresees -/

def OverlongNumber.exception (e : OverlongNumber) : Exception :=
  ⟨"ValueError", e.message⟩

def Duration.Failure.exception (f : Duration.Failure) : Exception :=
  match f with
  | notANumber => ⟨"ValueError", f.message⟩
  | infinite | tooManyDays _ => ⟨"OverflowError", f.message⟩

def Rejection.exception (r : Rejection) : Exception :=
  match r with
  | wrongCount .. => ⟨"ArityError", r.message⟩
  | invalid .. => ⟨"InvalidExpressionError", r.message⟩

def SearchError.exception (e : SearchError) : Exception :=
  match e with
  | rejected r => r.exception
  | countTooLarge => ⟨"ValueError", e.message⟩
  | offCalendar => ⟨"OverflowError", e.message⟩

namespace CommandLine

/-! ## Failures -/

inductive ExitCode where
  | general
  | usage
  | fileNotFound
  | validationFailed
  | configInvalid
deriving DecidableEq

namespace ExitCode

def value : ExitCode → Nat
  | general => 1
  | usage => 2
  | fileNotFound => 10
  | validationFailed => 20
  | configInvalid => 31

def name : ExitCode → String
  | general => "GENERAL_ERROR"
  | usage => "USAGE_ERROR"
  | fileNotFound => "FILE_NOT_FOUND"
  | validationFailed => "VALIDATION_FAILED"
  | configInvalid => "CONFIG_INVALID"

end ExitCode

structure Failure where
  code : ExitCode
  message : String
  /-- What is wrong in particular. -/
  issues : List String
  /-- What to do about it; empty if there is nothing to say. -/
  hint : String
deriving DecidableEq

namespace Failure

/-- An option that has a value of no use. -/
def usage (message hint : String) : Failure :=
  ⟨.usage, message, [], hint⟩

/-- An expression that is not valid. -/
def expression (message : String) (issues : List String) (hint : String) : Failure :=
  ⟨.validationFailed, message, issues, hint⟩

/-- A configuration that cannot be used. -/
def configuration (message hint : String) : Failure :=
  ⟨.configInvalid, message, [],
    if hint = "" then "Check the configuration file format and values." else hint⟩

/-- A file that does not exist. -/
def missingFile (description path : String) : Failure :=
  ⟨.fileNotFound, description ++ " not found: " ++ path, [],
    "Check that the file exists and the path is correct."⟩

/-- The failure in short: what happened, and what to do about it. -/
def text (f : Failure) : String :=
  if f.hint = "" then f.message else f.message ++ "\nHint: " ++ f.hint

end Failure

end CommandLine

end CronSchedule
