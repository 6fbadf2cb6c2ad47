import CronSchedule.Message.Pattern
import CronSchedule.Token.Expansion

/-!
Answers for tokens: the numbers that a token selects, or its fault in words, together with the message and
what was put in it, so that the fault can be told again in another language.
-/

namespace CronSchedule

/-- What is put for a placeholder. -/
inductive Filling where
  | text (s : String)
  | number (n : Int)
deriving DecidableEq

def Filling.write : Filling → Except UnwritableNumber String
  | text s => .ok s
  | number n => if Text.IsShort n then .ok (Text.ofInt n) else .error ⟨n⟩

/-- What is put for each placeholder of a message. -/
abbrev Params := List (Placeholder × Filling)

def Params.write (params : Params) : Except UnwritableNumber Bindings :=
  params.mapM fun w => (w.1, ·) <$> w.2.write

/-- Why a message cannot be told. -/
inductive TellError where
  | unwritable (e : UnwritableNumber)
  | pattern (e : PatternError)
deriving DecidableEq

/-- Tells a message in the language that a tag asks for. -/
def Message.tell (m : Message) (tag : Option String) (params : Params) : Except TellError String := do
  let b ← params.write.mapError .unwritable
  ((Locale.ofTag tag).format m b).mapError .pattern

def Fault.params (f : Fault) : Params :=
  (.token, .text f.token) :: f.numbers.map fun w => (w.1, .number w.2)

/-- The answer for a token, with its fault in English if it is faulty. -/
structure Answer where
  values : List Int
  error? : Option String
  message? : Option Message
  params : Params
deriving DecidableEq

/-- Why there is no answer for a token. -/
inductive AnswerError where
  | overlong (e : OverlongNumber)
  | unlistable
  | untold (e : TellError)
deriving DecidableEq

namespace Answer

def isOk (x : Answer) : Bool :=
  x.error?.isNone

def ofFault (f : Fault) : Except TellError Answer := do
  let error ← f.message.tell none f.params
  return ⟨[], error, f.message, f.params⟩

def ofToken (b : Bounds) (token : String) : Except AnswerError Answer :=
  match Token.expand b token with
  | .ok values => .ok ⟨values, none, none, []⟩
  | .error (.fault f) => (ofFault f).mapError .untold
  | .error (.overlong e) => .error (.overlong e)
  | .error .unlistable => .error .unlistable

end Answer

end CronSchedule
