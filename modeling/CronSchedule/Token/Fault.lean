import CronSchedule.Message.Catalog
import CronSchedule.Number.Numeral

/-!
What can be wrong with a token.
-/

namespace CronSchedule

/-- Each fault names the text that it was found in. -/
inductive Fault where
  | emptyElement (token : String)
  | repeatedList (token : String)
  | malformed (token : String)
  | badStep (token : String)
  | notNumber (text : String)
  | outOfRange (token : String) (value low high : Int)
  | reversedRange (token : String)
  | selectsNothing (token : String) (low high : Int)
deriving DecidableEq

namespace Fault

/-- The text that the fault was found in. -/
def token : Fault → String
  | emptyElement t => t
  | repeatedList t => t
  | malformed t => t
  | badStep t => t
  | notNumber t => t
  | outOfRange t _ _ _ => t
  | reversedRange t => t
  | selectsNothing t _ _ => t

/-- The numbers that the fault is explained with. -/
def numbers : Fault → List (Placeholder × Int)
  | outOfRange _ value low high => [(.value, value), (.low, low), (.high, high)]
  | selectsNothing _ low high => [(.low, low), (.high, high)]
  | _ => []

/-- The message that reports the fault. -/
def message : Fault → Message
  | emptyElement _ => .emptyElement
  | repeatedList _ => .repeatedList
  | malformed _ => .malformed
  | badStep _ => .badStep
  | notNumber _ => .notNumber
  | outOfRange .. => .outOfRange
  | reversedRange _ => .reversedRange
  | selectsNothing .. => .selectsNothing

def bindings (f : Fault) : Bindings :=
  (.token, f.token) :: f.numbers.map fun (p, n) => (p, Text.ofInt n)

/-- The fault in words. -/
def say (f : Fault) (l : Locale) : String :=
  f.message.say l f.bindings

/-- Everything that the message of a fault leaves open is known. -/
theorem missing?_bindings (f : Fault) (l : Locale) :
    (f.message.template l).missing? f.bindings = none := by
  cases f <;> cases l <;> rfl

end Fault

/-- Why a token could not be read: it is faulty, or holds a number that is too long to look at. -/
inductive TokenError where
  | fault (f : Fault)
  | overlong (e : OverlongNumber)
deriving DecidableEq

end CronSchedule
