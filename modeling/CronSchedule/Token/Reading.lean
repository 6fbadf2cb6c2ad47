import CronSchedule.Text.Pieces
import CronSchedule.Token.Element
import CronSchedule.Token.Fault

/-!
Reading a token: a list of elements between commas, each within the bounds of its slot.
-/

namespace CronSchedule

namespace Numeral

/-- Reads a number within the bounds; `token` is what a fault of the number is blamed on. -/
def readWithin (b : Bounds) (token text : List Char) : Except TokenError Numeral :=
  if text = [] then .error (.fault (.malformed (String.ofList token)))
  else match read text with
    | .error .notDigits => .error (.fault (.notNumber (String.ofList text)))
    | .error (.overlong e) => .error (.overlong e)
    | .ok n =>
      if b.contains n.value then .ok n
      else .error (.fault (.outOfRange (String.ofList token) n.value b.low b.high))

/-- Reads the step of the element `token`. -/
def readStep (token text : List Char) : Except TokenError Numeral :=
  match read text with
  | .error .notDigits => .error (.fault (.badStep (String.ofList token)))
  | .error (.overlong e) => .error (.overlong e)
  | .ok n => if n.value = 0 then .error (.fault (.badStep (String.ofList token))) else .ok n

end Numeral

namespace Base

/-- Reads a range, which is blamed for its own faults. -/
def readSpan (b : Bounds) (text : List Char) : Except TokenError Base :=
  match Text.pieces '-' text with
  | [first, last] => do
    let first ← Numeral.readWithin b text first
    let last ← Numeral.readWithin b text last
    if last.value < first.value then .error (.fault (.reversedRange (String.ofList text)))
    else .ok (.span first last)
  | _ => .error (.fault (.malformed (String.ofList text)))

/-- Reads the base of the element `token`. -/
def read (b : Bounds) (token text : List Char) : Except TokenError Base :=
  if text = ['*'] then .ok .every
  else if '-' ∈ text then readSpan b text
  else .single <$> Numeral.readWithin b token text

end Base

namespace Element

/-- Reads the form of an element with a step: the step is looked at before the base. -/
def readStepped (b : Bounds) (token : List Char) : Except TokenError Element :=
  match Text.pieces '/' token with
  | [base, step] =>
    if base = [] then .error (.fault (.malformed (String.ofList token)))
    else do
      let step ← Numeral.readStep token step
      let base ← Base.read b token base
      return stepped base step
  | _ => .error (.fault (.malformed (String.ofList token)))

/-- Reads the form of one element, whether it selects anything or not; an element never holds a list of its
own. -/
def readForm (b : Bounds) (token : List Char) : Except TokenError Element :=
  if ',' ∈ token then .error (.fault (.repeatedList (String.ofList token)))
  else if '/' ∈ token then readStepped b token
  else .plain <$> Base.read b token token

/-- Refuses an element with a step that meets nothing. -/
def refuseEmpty (b : Bounds) (token : List Char) (e : Element) : Except TokenError Element :=
  match e with
  | plain _ => .ok e
  | stepped .. =>
    if (e.values b).isEmpty then
      .error (.fault (.selectsNothing (String.ofList token) b.low b.high))
    else .ok e

/-- Reads one element. -/
def read (b : Bounds) (token : List Char) : Except TokenError Element :=
  readForm b token >>= refuseEmpty b token

end Element

namespace Token

/-- Reads the elements of a token from left to right; the first that cannot be read decides. -/
def elements (b : Bounds) (token : List Char) : Except TokenError (List Element) :=
  (Text.pieces ',' token).mapM fun part =>
    if part = [] then .error (.fault (.emptyElement (String.ofList token)))
    else Element.read b part

/-- The numbers that some of the elements select, in ascending order. -/
def selection (b : Bounds) (es : List Element) : List Int :=
  Ascending.ofList (es.flatMap (·.values b))

end Token

end CronSchedule
