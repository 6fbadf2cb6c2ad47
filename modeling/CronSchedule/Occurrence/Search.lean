import CronSchedule.Occurrence.Walk

/-!
The next firings of a schedule: so many at once, or a few at a time.
-/

namespace CronSchedule

/-- How a walk stood when no more was asked of it. -/
inductive Ending where
  | more (w : Walk)
  | finished (why : Finish)
  | offCalendar
deriving DecidableEq

/-- The firings that a walk passed. -/
structure Harvest where
  moments : List Moment
  ending : Ending
deriving DecidableEq

/-- Why a search has no answer. -/
inductive SearchError where
  | rejected (r : Rejection)
  | countTooLarge
  | offCalendar
deriving DecidableEq

def SearchError.message : SearchError → String
  | rejected r => r.message
  | countTooLarge =>
    "Stop argument for islice() must be None or an integer: 0 <= x <= sys.maxsize."
  | offCalendar => "date value out of range"

namespace Search

/-- At most `n` firings, starting from a walk. -/
def collect (s : Search) : Nat → Walk → Harvest
  | 0, w => ⟨[], .more w⟩
  | n + 1, w =>
    match s.pull w with
    | .hit m rest =>
      let h := s.collect n rest
      ⟨m :: h.moments, h.ending⟩
    | .finished why => ⟨[], .finished why⟩
    | .offCalendar => ⟨[], .offCalendar⟩

/-- The most firings that can be asked for. -/
def maxCount : Int := 9223372036854775807

/-- What a search for `count` firings passes, if it starts at all. -/
def harvest (s : Search) (count : Int) : Except SearchError Harvest :=
  if maxCount < count then .error .countTooLarge
  else match s.expression.requireValid with
    | .error r => .error (.rejected r)
    | .ok _ => .ok (s.collect count.toNat s.start)

/-- The next `count` firings after the reference, or fewer if the search ends first. -/
def occurrences (s : Search) (count : Int) : Except SearchError (List Moment) := do
  let h ← s.harvest count
  match h.ending with
  | .offCalendar => .error .offCalendar
  | _ => .ok h.moments

/-- The next firing after the reference, if the search comes to one. -/
def next? (s : Search) : Except SearchError (Option Moment) :=
  List.head? <$> s.occurrences 1

/-- A moment of the search with the zone of its reference. -/
def stamp (s : Search) (m : Moment) : Stamp :=
  ⟨m, s.reference.zone⟩

end Search

/-- Firings that are looked for as they are asked for. -/
inductive Occurrences where
  | fresh (s : Search)
  | walking (s : Search) (w : Walk)
  | done

namespace Occurrences

/-- Takes up to `n` more firings from a walk. -/
def takeFrom (s : Search) (n : Nat) (w : Walk) :
    Except SearchError (List Moment) × Occurrences :=
  let h := s.collect n w
  match h.ending with
  | .more w => (.ok h.moments, walking s w)
  | .finished _ => (.ok h.moments, done)
  | .offCalendar => (.error .offCalendar, done)

/-- Takes up to `n` more firings. Nothing is looked at before the first one is asked for, and after
an error there are none. -/
def take (n : Nat) : Occurrences → Except SearchError (List Moment) × Occurrences
  | fresh s =>
    if n = 0 then (.ok [], fresh s)
    else match s.expression.requireValid with
      | .error r => (.error (.rejected r), done)
      | .ok _ => takeFrom s n s.start
  | walking s w => takeFrom s n w
  | done => (.ok [], done)

end Occurrences

end CronSchedule
