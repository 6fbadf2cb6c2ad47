import CronSchedule.Calendar.Duration
import CronSchedule.Calendar.Zone
import CronSchedule.Expression.Matching

/-!
Walking forward through time, one unit a step, from one firing of a schedule to the next.
-/

namespace CronSchedule

/-- The step of a search, in microseconds. -/
def Mode.unit : Mode → Nat
  | minutes => 60 * microsecondsPerSecond
  | seconds => microsecondsPerSecond

/-- What to look for, from where, and how far. -/
structure Search where
  expression : Expression
  reference : Stamp
  /-- The most steps to take. -/
  budget : Int
  /-- Give up when nothing was found this far after the reference. -/
  window : Option Duration

/-- How far a search has come. -/
structure Walk where
  cursor : Moment
  left : Nat
  found : Nat
deriving DecidableEq

/-- Why a search came to an end. -/
inductive Finish where
  | gaveUp
  | budgetSpent (found : Nat)
deriving DecidableEq

/-- What lies ahead of a walk. -/
inductive Pull where
  | hit (m : Moment) (rest : Walk)
  | finished (why : Finish)
  /-- The next step would leave the time line. -/
  | offCalendar
deriving DecidableEq

namespace Search

/-- The budget of a search that is not told one. -/
def defaultBudget : Int := 1000

/-- The window of a search that is not told one: a day. -/
def defaultWindow : Duration :=
  ⟨microsecondsPerDay⟩

def unit (s : Search) : Nat :=
  s.expression.mode.unit

def fires (s : Search) (m : Moment) : Bool :=
  s.expression.selects m.civil

/-- Whether a step without a firing at `m` ends a search that has found nothing yet. -/
def givesUpAt (s : Search) (m : Moment) : Bool :=
  match s.window with
  | none => false
  | some w => w.micros < m.ticks - s.reference.clock.ticks

/-- Searches start at the last whole unit up to the reference. -/
def start (s : Search) : Walk :=
  ⟨s.reference.clock.truncate s.unit, s.budget.toNat, 0⟩

/-- Walks on to the next firing, with `left` steps to go. -/
def advance (s : Search) (found : Nat) : Nat → Moment → Pull
  | 0, _ => .finished (.budgetSpent found)
  | left + 1, cursor =>
    match cursor.shift? s.unit with
    | none => .offCalendar
    | some next =>
      if s.fires next then .hit next ⟨next, left, found + 1⟩
      else if found = 0 ∧ s.givesUpAt next then .finished .gaveUp
      else s.advance found left next

def pull (s : Search) (w : Walk) : Pull :=
  s.advance w.found w.left w.cursor

end Search

end CronSchedule
