import CronSchedule.Expression.Report
import CronSchedule.Text.Blank
import CronSchedule.Text.Quoted

/-!
Expressions: six fields and perhaps a year, read from the words of a text.
-/

namespace CronSchedule

/-- Whether an expression starts with a field for the seconds. -/
inductive Mode where
  | minutes
  | seconds
deriving DecidableEq

namespace Mode

def ofSeconds (b : Bool) : Mode :=
  if b then seconds else minutes

/-- The number of tokens without a year. -/
def size : Mode → Nat
  | minutes => 5
  | seconds => 6

end Mode

structure Expression where
  source : String
  mode : Mode
  second : Field
  minute : Field
  hour : Field
  dayOfMonth : Field
  month : Field
  dayOfWeek : Field
  year : Option Field
deriving DecidableEq

namespace Expression

def baseFields (e : Expression) : List Field :=
  [e.second, e.minute, e.hour, e.dayOfMonth, e.month, e.dayOfWeek]

/-- The fields in slot order. -/
def fields (e : Expression) : List Field :=
  e.baseFields ++ e.year.toList

/-- The fields that the text has a token for: in minutes mode the seconds are not written. -/
def written (e : Expression) : List Field :=
  match e.mode with
  | .minutes => e.fields.drop 1
  | .seconds => e.fields

def field? (e : Expression) : Slot → Option Field
  | .second => e.second
  | .minute => e.minute
  | .hour => e.hour
  | .dayOfMonth => e.dayOfMonth
  | .month => e.month
  | .dayOfWeek => e.dayOfWeek
  | .year => e.year

/-- The tokens as they were written, with single spaces. -/
def normalized (e : Expression) : String :=
  " ".intercalate (e.written.map (·.token))

def issues (e : Expression) : List Issue :=
  e.fields.filterMap fun f => f.fault?.map (Issue.field f.slot f.token)

def warnings (e : Expression) : List Warning :=
  if e.dayOfMonth.isUnrestricted || e.dayOfWeek.isUnrestricted then [] else [.bothDaysRestricted]

def report (e : Expression) : Report :=
  ⟨e.issues, e.warnings⟩

def isValid (e : Expression) : Bool :=
  e.report.isValid

/-- Two expressions are the same schedule text: equal tokens in the same mode. -/
def sameText (a b : Expression) : Bool :=
  a.normalized = b.normalized && a.mode = b.mode

/-- A line of a crontab that runs `command`. -/
def crontabLine (e : Expression) (command : String) : String :=
  e.normalized ++ " " ++ command

/-- The expression as it is shown in a listing. -/
def display (e : Expression) : String :=
  "CronExpression(" ++ Text.quoted e.source ++ ")"

end Expression

/-- The field as it is shown in a listing. -/
def Field.display (f : Field) : String :=
  "CronField(" ++ f.slot.title ++ ", " ++ Text.quoted f.token ++ ")"

/-- The outcome of reading a text. -/
inductive Parsed where
  | wrongCount (expected actual : Nat) (text : String)
  | expression (e : Expression)
deriving DecidableEq

namespace Parsed

def expression? : Parsed → Option Expression
  | wrongCount .. => none
  | expression e => some e

def report : Parsed → Report
  | wrongCount expected actual text => ⟨[.wrongCount expected actual text], []⟩
  | expression e => e.report

/-- The expression, if nothing is wrong with it. -/
def valid? (p : Parsed) : Option Expression :=
  p.expression?.filter (·.isValid)

end Parsed

namespace Expression

/-- Reads the tokens of all slots in order. -/
def ofTokens (source : String) (mode : Mode)
    (second minute hour dayOfMonth month dayOfWeek : String) (year : Option String) :
    Except OverlongNumber Expression := do
  let second ← Field.read .second second
  let minute ← Field.read .minute minute
  let hour ← Field.read .hour hour
  let dayOfMonth ← Field.read .dayOfMonth dayOfMonth
  let month ← Field.read .month month
  let dayOfWeek ← Field.read .dayOfWeek dayOfWeek
  let year ← match year with
    | none => pure none
    | some token => some <$> Field.read .year token
  return ⟨source, mode, second, minute, hour, dayOfMonth, month, dayOfWeek, year⟩

/-- The words of a text. -/
def tokens (source : String) : List String :=
  (Text.words source.toList).map String.ofList

/-- The tokens of all slots: in minutes mode the seconds are fixed to 0. -/
def slotTokens (mode : Mode) (tokens : List String) : List String :=
  match mode with
  | .minutes => "0" :: tokens
  | .seconds => tokens

end Expression

/-- Reads an expression. Nothing but a number that is too long stops it before the end. -/
def parse (source : String) (mode : Mode) : Except OverlongNumber Parsed :=
  let tokens := Expression.tokens source
  match Expression.slotTokens mode tokens with
  | [s, m, h, dom, mon, dow] =>
    .expression <$> Expression.ofTokens source mode s m h dom mon dow none
  | [s, m, h, dom, mon, dow, y] =>
    .expression <$> Expression.ofTokens source mode s m h dom mon dow (some y)
  | _ => .ok (.wrongCount mode.size tokens.length (String.ofList (Text.trim source.toList)))

/-- Whether the text is a valid expression. -/
def isValidExpression (source : String) (mode : Mode) : Except OverlongNumber Bool :=
  (·.valid?.isSome) <$> parse source mode

end CronSchedule
