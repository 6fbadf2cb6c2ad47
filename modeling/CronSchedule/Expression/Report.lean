import CronSchedule.Expression.Field
import CronSchedule.Locale.Names

/-!
What is found wrong or remarkable in an expression.
-/

namespace CronSchedule

/-- Something that makes an expression invalid. -/
inductive Issue where
  | wrongCount (expected actual : Nat) (text : String)
  | field (slot : Slot) (token : String) (fault : FieldFault)
deriving DecidableEq

namespace Issue

/-- The slot at fault; a wrong number of tokens concerns the whole expression. -/
def slot? : Issue → Option Slot
  | wrongCount .. => none
  | field slot _ _ => some slot

def kind : Issue → String
  | wrongCount .. => "arity"
  | field .. => "field_range"

/-- The text at fault. -/
def token : Issue → String
  | wrongCount _ _ text => text
  | field _ token _ => token

/-- The issue in words. -/
def say (l : Locale) : Issue → String
  | wrongCount expected actual _ =>
    Message.wrongCount.say l [(.expected, Text.ofNat expected), (.actual, Text.ofNat actual)]
  | field slot token fault =>
    Message.invalidField.say l
      [(.label, l.label slot), (.token, token), (.reason, fault.say l)]

end Issue

/-- Something that is legal but may surprise. -/
inductive Warning where
  | bothDaysRestricted
deriving DecidableEq

namespace Warning

def kind : Warning → String
  | bothDaysRestricted => "semantic"

/-- The warning in words. -/
def say (l : Locale) : Warning → String
  | bothDaysRestricted => Message.bothDaysRestricted.say l []

end Warning

/-- All issues and warnings, in slot order. -/
structure Report where
  issues : List Issue
  warnings : List Warning
deriving DecidableEq

namespace Report

def isValid (r : Report) : Bool :=
  r.issues.isEmpty

/-- The issues of the slot of that name. -/
def issuesOf (r : Report) (name : String) : List Issue :=
  r.issues.filter fun i => i.slot?.map Slot.name = some name

@[simp] theorem isValid_iff {r : Report} : r.isValid = true ↔ r.issues = [] := by
  simp [isValid]

end Report

end CronSchedule
