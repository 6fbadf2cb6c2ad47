import CronSchedule.Calendar.Duration
import CronSchedule.Number.Shortest
import CronSchedule.Text.Quoted

/-!
The settings of a front end, and their defaults.
-/

namespace CronSchedule

/-- What can be set. -/
inductive Setting where
  | includeSeconds
  | maxIterations
  | fastFailHours
  | defaultCount
  | locale
  | timezone
  | hourFormat
deriving DecidableEq

namespace Setting

def all : List Setting :=
  [includeSeconds, maxIterations, fastFailHours, defaultCount, locale, timezone, hourFormat]

def name : Setting → String
  | includeSeconds => "include_seconds"
  | maxIterations => "max_iterations"
  | fastFailHours => "fast_fail_hours"
  | defaultCount => "default_count"
  | locale => "locale"
  | timezone => "timezone"
  | hourFormat => "hour_format"

def ofName? (name : String) : Option Setting :=
  all.find? (·.name = name)

@[simp] theorem ofName?_name (s : Setting) : ofName? s.name = some s := by
  cases s <;> decide

end Setting

structure Settings where
  includeSeconds : Bool
  /-- The most steps of a search. -/
  maxIterations : Int
  /-- Searches without a firing are given up after so many hours. -/
  fastFailHours : Option Binary64
  /-- The number of firings that are shown. -/
  defaultCount : Int
  locale : String
  /-- The key of a zone; without one, times are local. -/
  timezone : Option String
  /-- Whether times are shown with 12 or with 24 hours. -/
  hourFormat : Int
deriving DecidableEq

namespace Settings

def standard : Settings where
  includeSeconds := false
  maxIterations := 1000
  fastFailHours := some (Binary64.ofRatio false 24 1)
  defaultCount := 5
  locale := "en"
  timezone := none
  hourFormat := 24

/-- The window of a search; no hours, or none at all, mean that it is never given up. -/
def window (s : Settings) : Except Duration.Failure (Option Duration) :=
  match s.fastFailHours with
  | none => .ok none
  | some x => if x.isZero then .ok none else some <$> Duration.ofHours x

/-- The settings as they are shown in a listing. -/
def display (s : Settings) : String :=
  let entries :=
    [(Setting.includeSeconds, if s.includeSeconds then "True" else "False"),
      (.maxIterations, Text.ofInt s.maxIterations),
      (.fastFailHours, (s.fastFailHours.map (·.text)).getD "None"),
      (.defaultCount, Text.ofInt s.defaultCount),
      (.locale, Text.quoted s.locale),
      (.timezone, (s.timezone.map Text.quoted).getD "None"),
      (.hourFormat, Text.ofInt s.hourFormat)]
  "EngineConfig(" ++ ", ".intercalate (entries.map fun (k, v) => k.name ++ "=" ++ v) ++ ")"

end Settings

end CronSchedule
