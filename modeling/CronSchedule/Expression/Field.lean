import CronSchedule.Token.Reading

/-!
A field: the token in one slot, and what was read from it.
-/

namespace CronSchedule

/-- Why a token does not fit its slot. -/
inductive FieldFault where
  | questionNotAllowed
  | token (f : Fault)
deriving DecidableEq

/-- The fault in words. -/
def FieldFault.say (l : Locale) : FieldFault → String
  | questionNotAllowed => Message.questionNotAllowed.say l []
  | token f => f.say l

/-- What was read from a token. -/
inductive Reading where
  /-- Any number will do. -/
  | unrestricted
  | listed (elements : List Element) (values : List Int)
  | refused (fault : FieldFault)
deriving DecidableEq

structure Field where
  slot : Slot
  token : String
  reading : Reading
deriving DecidableEq

namespace Field

/-- Reads the token of a slot; a faulty token is a reading too. -/
def read (slot : Slot) (token : String) : Except OverlongNumber Field :=
  if token = "*" ∨ token = "?" ∧ slot.allowsQuestion then .ok ⟨slot, token, .unrestricted⟩
  else if token = "?" then .ok ⟨slot, token, .refused .questionNotAllowed⟩
  else match Token.elements slot.accepted token.toList with
    | .ok es =>
      .ok ⟨slot, token, .listed es (slot.normalize (Token.selection slot.accepted es))⟩
    | .error (.fault f) => .ok ⟨slot, token, .refused (.token f)⟩
    | .error (.overlong e) => .error e

/-- The numbers that the field selects, in ascending order; none if the token is faulty. -/
def values (f : Field) : List Int :=
  match f.reading with
  | .unrestricted => f.slot.bounds.toList
  | .listed _ values => values
  | .refused _ => []

def isUnrestricted (f : Field) : Bool :=
  f.reading = .unrestricted

def selects (f : Field) (n : Int) : Bool :=
  f.values.contains n

def fault? (f : Field) : Option FieldFault :=
  match f.reading with
  | .refused fault => some fault
  | _ => none

@[simp] theorem selects_iff {f : Field} {n : Int} : f.selects n = true ↔ n ∈ f.values := by
  simp [selects]

end Field

end CronSchedule
