import CronSchedule.Expression.Rejection

/-!
Drafts: expressions that are still being put together, a text for each slot. Nothing is checked
before a draft is built.
-/

namespace CronSchedule

/-- The texts of the slots; a draft without a year has an empty one. -/
structure Draft where
  token : Slot → String
  mode : Mode

namespace Draft

/-- Every minute of every day. -/
def new : Draft where
  token
    | .second => "0"
    | .year => ""
    | _ => "*"
  mode := .minutes

/-- Writes the text of one slot. -/
def write (d : Draft) (slot : Slot) (token : String) : Draft :=
  { d with token := fun s => if s = slot then token else d.token s }

def withMode (d : Draft) (mode : Mode) : Draft :=
  { d with mode }

@[simp] theorem token_write_self (d : Draft) (slot : Slot) (token : String) :
    (d.write slot token).token slot = token := by
  simp [write]

@[simp] theorem token_write_of_ne {slot other : Slot} (h : other ≠ slot) (d : Draft)
    (token : String) : (d.write slot token).token other = d.token other := by
  simp [write, h]

@[simp] theorem mode_write (d : Draft) (slot : Slot) (token : String) :
    (d.write slot token).mode = d.mode := rfl

/-- Copies the tokens of a text. With too few of them nothing is copied, and none after the year
is looked at. -/
def ofSource (source : String) (mode : Mode) : Draft :=
  match Expression.slotTokens mode (Expression.tokens source) with
  | s :: m :: h :: dom :: mon :: dow :: rest =>
    { token
        | .second => s
        | .minute => m
        | .hour => h
        | .dayOfMonth => dom
        | .month => mon
        | .dayOfWeek => dow
        | .year => rest.head?.getD ""
      mode }
  | _ => new.withMode mode

/-- The slots that a draft writes out: the seconds only in seconds mode, the year only if it has a
text. -/
def writtenSlots (d : Draft) : List Slot :=
  Slot.all.filter fun
    | .second => d.mode = .seconds
    | .year => d.token .year ≠ ""
    | _ => true

/-- The texts of the slots with single spaces. -/
def text (d : Draft) : String :=
  " ".intercalate (d.writtenSlots.map d.token)

/-- The expression that the text of the draft makes. -/
def build (d : Draft) : Except ExpressionError Expression :=
  Expression.ofSource d.text d.mode

end Draft

end CronSchedule
