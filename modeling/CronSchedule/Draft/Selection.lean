import CronSchedule.Draft.Basic

/-!
Drafts from the numbers that were picked for each slot.
-/

namespace CronSchedule

/-- Numbers as the elements of a token. -/
def listToken (ns : List Int) : String :=
  ",".intercalate (ns.map Text.ofInt)

/-- The token for a set of numbers. Any number will do if none is picked, or as many as the slot
has. -/
def Slot.selectionToken (s : Slot) (ns : List Int) : String :=
  let picked := s.normalize ns
  if picked = [] ∨ (picked.length : Int) = s.bounds.size then "*" else listToken picked

/-- The numbers that are picked for each slot. -/
structure Selections where
  seconds : List Int
  minutes : List Int
  hours : List Int
  days : List Int
  months : List Int
  weekdays : List Int
  mode : Mode

/-- Without seconds, or with none picked, the schedule stays on whole minutes. -/
def Selections.secondToken (s : Selections) : String :=
  if s.mode = .minutes ∨ s.seconds = [] then "0" else Slot.second.selectionToken s.seconds

def Draft.ofSelections (s : Selections) : Draft where
  token
    | .second => s.secondToken
    | .minute => Slot.minute.selectionToken s.minutes
    | .hour => Slot.hour.selectionToken s.hours
    | .dayOfMonth => Slot.dayOfMonth.selectionToken s.days
    | .month => Slot.month.selectionToken s.months
    | .dayOfWeek => Slot.dayOfWeek.selectionToken s.weekdays
    | .year => ""
  mode := s.mode

end CronSchedule
