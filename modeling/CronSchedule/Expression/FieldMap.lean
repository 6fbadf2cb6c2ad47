import CronSchedule.Association
import CronSchedule.Expression.Matching

/-!
The fields of an expression by their slots, and when a schedule fires as told by looking them up.
-/

namespace CronSchedule

/-- Fields by their slots. -/
abbrev FieldMap := List (Slot × Field)

/-- A field was looked up that is not there. -/
structure MissingField where
  slot : Slot
deriving DecidableEq

namespace FieldMap

/-- The fields by their slots; of two fields for one slot the later is kept. -/
def ofFields (fs : List Field) : FieldMap :=
  Association.ofList (fs.map fun f => (f.slot, f))

def get (m : FieldMap) (slot : Slot) : Except MissingField Field :=
  match m.lookup slot with
  | some f => .ok f
  | none => .error ⟨slot⟩

/-- Whether the field of a slot selects a number. -/
def holds (m : FieldMap) (slot : Slot) (n : Nat) : Except MissingField Bool :=
  (·.selects n) <$> m.get slot

/-- Whether the fields of a day select it. -/
def selectsDay (m : FieldMap) (d : Date) : Except MissingField Bool := do
  let dom ← m.get .dayOfMonth
  let dow ← m.get .dayOfWeek
  if dom.isUnrestricted && dow.isUnrestricted then return true
  else if dom.isUnrestricted then return dow.selects d.weekday
  else if dow.isUnrestricted then return dom.selects d.day
  else return dom.selects d.day || dow.selects d.weekday

/-- Only the year may be missing. -/
def selectsYear (m : FieldMap) (year : Nat) : Bool :=
  match m.lookup .year with
  | none => true
  | some f => f.isUnrestricted || f.selects year

/-- The numbers of a reading that are checked one after the other, each by the field of its slot. -/
def checks (mode : Mode) (c : Civil) : List (Slot × Nat) :=
  (match mode with
    | .minutes => []
    | .seconds => [(.second, c.second)]) ++
    [(.minute, c.minute), (.hour, c.hour), (.month, c.date.month)]

/-- Whether the fields select a reading; nothing is looked up after the first number that does not fit. -/
def selects (m : FieldMap) (mode : Mode) (c : Civil) : Except MissingField Bool := do
  if ← (checks mode c).allM fun w => m.holds w.1 w.2 then
    if m.selectsYear c.date.year then m.selectsDay c.date else return false
  else return false

end FieldMap

/-- Why it could not be told whether a schedule fires. -/
inductive MatchError where
  | rejected (r : Rejection)
  | missing (m : MissingField)
deriving DecidableEq

namespace Expression

def fieldMap (e : Expression) : FieldMap :=
  .ofFields e.fields

/-- Whether a valid expression fires at a reading, told by looking its fields up. -/
def fires? (e : Expression) (c : Civil) : Except MatchError Bool := do
  let _ ← e.requireValid.mapError .rejected
  (e.fieldMap.selects e.mode c).mapError .missing

end Expression

end CronSchedule
