import CronSchedule.Calendar.Moment
import CronSchedule.Exception

/-!
Time zones, and moments as they are read in them.
-/

namespace CronSchedule

/-- A zone that is ahead of universal time by an offset in microseconds. -/
structure Zone where
  offset : Int
  name : String
deriving DecidableEq

namespace Zone

/-- An offset as hours and minutes, with seconds and microseconds only if there are any. -/
def offsetText (offset : Int) : List Char :=
  let n := offset.natAbs
  let micros := n % microsecondsPerSecond
  let seconds := n / microsecondsPerSecond
  let fraction := if micros = 0 then [] else '.' :: Text.padded 6 micros
  let rest := if seconds % 60 = 0 ∧ micros = 0 then []
    else ':' :: Text.padded 2 (seconds % 60) ++ fraction
  (if offset < 0 then '-' else '+') :: Text.padded 2 (seconds / 3600) ++ ':' ::
    Text.padded 2 (seconds / 60 % 60) ++ rest

/-- The zone of an offset, which is all that it is named by. -/
def ofOffset (offset : Int) : Zone :=
  ⟨offset, if offset = 0 then "UTC" else String.ofList ("UTC".toList ++ offsetText offset)⟩

def ofMinutes (minutes : Int) : Zone :=
  ofOffset (minutes * 60 * microsecondsPerSecond)

end Zone

/-- A zone whose offset may change over time. -/
structure ZoneRules where
  /-- How clocks of the zone stand at a moment of universal time. -/
  atInstant : Moment → Zone
  /-- How a clock of the zone that shows a moment is taken to stand. -/
  atClock : Moment → Zone

/-- The rules of a zone whose offset never changes. -/
def ZoneRules.fixed (z : Zone) : ZoneRules :=
  ⟨fun _ => z, fun _ => z⟩

/-- Why there are no rules for the key of a zone. -/
inductive ZoneFailure where
  | unknown
  | other (e : Exception)
deriving DecidableEq

/-- A moment of a local clock, and how that clock stands if it is known. -/
structure Stamp where
  clock : Moment
  zone : Option Zone
deriving DecidableEq

namespace Stamp

/-- The same instant on the clock of another zone. It is taken over universal time, so both must lie
on the time line; a clock of which nothing is known is taken for one of that zone. -/
def inZone? (s : Stamp) (rules : ZoneRules) : Option Stamp :=
  match s.zone with
  | none => some ⟨s.clock, rules.atClock s.clock⟩
  | some own => do
    let universal ← s.clock.shift? (-own.offset)
    let zone := rules.atInstant universal
    let clock ← universal.shift? zone.offset
    return ⟨clock, zone⟩

def isoText (s : Stamp) : String :=
  String.ofList (s.clock.civil.isoText ++ (s.zone.map fun z => Zone.offsetText z.offset).getD [])

end Stamp

end CronSchedule
