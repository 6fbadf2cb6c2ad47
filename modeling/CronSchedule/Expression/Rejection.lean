import CronSchedule.Expression.Basic

/-!
Refusing expressions that are not valid.
-/

namespace CronSchedule

/-- On what occasion an invalid expression was refused. -/
inductive Occasion where
  | reading
  | use
deriving DecidableEq

def Occasion.heading : Occasion → String
  | reading => "Invalid cron expression"
  | use => "Expression failed validation"

/-- An expression refused for the issues of its report. -/
inductive Rejection where
  | wrongCount (source : String) (expected actual : Nat) (text : String)
  | invalid (occasion : Occasion) (source : String) (report : Report)
deriving DecidableEq

namespace Rejection

def source : Rejection → String
  | wrongCount source _ _ _ => source
  | invalid _ source _ => source

def report : Rejection → Report
  | wrongCount _ expected actual text => ⟨[.wrongCount expected actual text], []⟩
  | invalid _ _ report => report

def heading : Rejection → String
  | wrongCount .. => Occasion.reading.heading
  | invalid occasion _ _ => occasion.heading

/-- The heading, followed by the issues if there are any. -/
def wording (heading : String) (issues : List String) : String :=
  if issues.isEmpty then heading else heading ++ ": " ++ "; ".intercalate issues

/-- The rejection in words. -/
def message (r : Rejection) : String :=
  wording r.heading (r.report.issues.map (Issue.say .en))

end Rejection

/-- Why a text gave no expression to work with. -/
inductive ExpressionError where
  | rejected (r : Rejection)
  | overlong (e : OverlongNumber)
deriving DecidableEq

def ExpressionError.message : ExpressionError → String
  | rejected r => r.message
  | overlong e => e.message

namespace Expression

/-- The expression itself, if it is valid. -/
def requireValid (e : Expression) : Except Rejection Expression :=
  if e.isValid then .ok e else .error (.invalid .use e.source e.report)

/-- Reads a valid expression. -/
def ofSource (source : String) (mode : Mode) : Except ExpressionError Expression :=
  match parse source mode with
  | .error e => .error (.overlong e)
  | .ok (.wrongCount expected actual text) =>
    .error (.rejected (.wrongCount source expected actual text))
  | .ok (.expression e) =>
    if e.isValid then .ok e else .error (.rejected (.invalid .reading source e.report))

end Expression

/-- A line of a crontab made from any text. -/
def crontabLine (expression command : String) : String :=
  " ".intercalate (Expression.tokens expression) ++ " " ++ command

/-- The command of a crontab line that names none. -/
def defaultCommand : String :=
  "your-command-here"

end CronSchedule
